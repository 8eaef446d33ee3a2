import LogParse.AsyncBackend

/-!
# The worker starts inside the constructor

The members of `AsyncBackend` are initialized in the order of their
declaration, and `m_worker` comes before `m_running`.  The thread may test
`m_running` while its storage still holds what it held before.
-/

namespace LogParse

/-- The members declared after `m_worker`. -/
inductive Member where
  | running
  | flushMutex
  | flushCv
  | submitted
  | processed
  deriving DecidableEq, Repr

/-- What the storage of the object held before the members were
initialized. -/
structure Storage where
  running : Bool
  submitted : UInt64
  processed : UInt64
  deriving DecidableEq, Repr

/-- The object from the start of its worker on, and the members that the
constructor has yet to initialize. -/
structure Construction (ι κ ρ ε : Type) where
  backend : AsyncBackend ι κ ρ ε
  pending : List Member :=
    [.running, .flushMutex, .flushCv, .submitted, .processed]

/-- The constructor initializes the next member, or the object is used. -/
inductive ConstructionLabel (ι κ ρ φ : Type) where
  | construct
  | use (label : AsyncLabel ι κ ρ φ)

/-- The steps of the worker; all others wait for the constructor. -/
def AsyncLabel.byWorker {ι κ ρ φ : Type} : AsyncLabel ι κ ρ φ → Bool
  | .workerCheck | .workerPop | .workerWrite _ | .workerCount
  | .workerCompare | .workerNotify | .workerFlush => true
  | _ => false

namespace Construction

variable {ι κ ρ ε φ : Type} [DecidableEq ι] [DecidableEq κ]

/-- The default member initializer. -/
def constructMember (backend : AsyncBackend ι κ ρ ε) :
    Member → AsyncBackend ι κ ρ ε
  | .running => { backend with mRunning := true }
  | .flushMutex => { backend with mFlushMutex := none }
  | .flushCv => backend
  | .submitted => { backend with mSubmitted := 0 }
  | .processed => { backend with mProcessed := 0 }

def step (emitter : Emitter ρ ε φ) (construction : Construction ι κ ρ ε) :
    ConstructionLabel ι κ ρ φ → Option (Construction ι κ ρ ε)
  | .construct =>
      match construction.pending with
      | member :: rest =>
          some {
            backend := constructMember construction.backend member
            pending := rest }
      | [] => none
  | .use label =>
      if label.byWorker || construction.pending = [] then
        (construction.backend.step emitter label).map fun backend =>
          { construction with backend := backend }
      else none

/-- `m_queue` is initialized and `m_worker` has started. -/
def make [Inhabited ρ] (storage : Storage) (capacity : Nat)
    (policy : OverflowPolicy) (output : ε) : Construction ι κ ρ ε where
  backend :=
    { AsyncBackend.make capacity policy output with
      mRunning := storage.running
      mSubmitted := storage.submitted
      mProcessed := storage.processed }

end Construction

def constructionMachine {ρ ε φ : Type} (ι κ : Type) [DecidableEq ι]
    [DecidableEq κ] [Inhabited ρ] (emitter : Emitter ρ ε φ)
    (storage : Storage) (capacity : Nat) (policy : OverflowPolicy)
    (output : ε) :
    Machine (Construction ι κ ρ ε) (ConstructionLabel ι κ ρ φ) where
  start := .make storage capacity policy output
  step := Construction.step emitter

namespace Construction

variable {ι κ ρ ε φ : Type}

/-- The worker is in its first loop as long as `stop` has not been called. -/
def ServesUntilStopped (construction : Construction ι κ ρ ε) : Prop :=
  construction.backend.stopper = .outside →
    construction.backend.worker.leftServing = false

instance (construction : Construction ι κ ρ ε) :
    Decidable construction.ServesUntilStopped :=
  inferInstanceAs (Decidable (_ → _))

/-- When the worker tests `m_running`, the member is initialized or its storage
holds `true`. -/
def ChecksInitialized (construction : Construction ι κ ρ ε) :
    ConstructionLabel ι κ ρ φ → Prop
  | .use .workerCheck =>
      .running ∉ construction.pending ∨ construction.backend.mRunning = true
  | _ => True

instance (construction : Construction ι κ ρ ε) :
    (label : ConstructionLabel ι κ ρ φ) →
      Decidable (construction.ChecksInitialized label)
  | .use .workerCheck => inferInstanceAs (Decidable (_ ∨ _))
  | .construct => inferInstanceAs (Decidable True)
  | .use (.logPush _ _) | .use (.logCount _) | .use .workerPop
  | .use (.workerWrite _) | .use .workerCount | .use .workerCompare
  | .use .workerNotify | .use .workerFlush | .use (.flushEnter _)
  | .use (.flushLock _) | .use (.flushLoadProcessed _)
  | .use (.flushLoadSubmitted _) | .use (.flushDecide _)
  | .use (.flushSpurious _) | .use (.flushReturn _) | .use .stopBegin
  | .use .stopShutdown | .use .stopJoin => inferInstanceAs (Decidable True)

/-- Nobody stops an object under construction, and an initialized `m_running`
is only changed by `stop`. -/
structure Building (construction : Construction ι κ ρ ε) : Prop where
  stopping : construction.backend.stopper ≠ .outside →
    construction.pending = []
  running : .running ∉ construction.pending →
    construction.backend.stopper = .outside →
    construction.backend.mRunning = true

section Steps

variable [DecidableEq ι] [DecidableEq κ] {emitter : Emitter ρ ε φ}
  {before after : Construction ι κ ρ ε}

theorem step_use_some {label : AsyncLabel ι κ ρ φ}
    (stepped : before.step emitter (.use label) = some after) :
    (label.byWorker = true ∨ before.pending = []) ∧
      ∃ backend, before.backend.step emitter label = some backend ∧
        after = { before with backend := backend } := by
  simp only [step] at stepped
  split at stepped
  · rename_i allowed
    obtain ⟨backend, used, rfl⟩ := Option.map_eq_some_iff.mp stepped
    exact ⟨by simpa using allowed, backend, used, rfl⟩
  · cases stepped

theorem step_use {label : AsyncLabel ι κ ρ φ}
    (stepped : before.step emitter (.use label) = some after) :
    (label.byWorker = true ∨ before.pending = []) ∧
      ∃ backend, AsyncStep emitter before.backend label backend ∧
        after = { before with backend := backend } := by
  obtain ⟨allowed, backend, used, moved⟩ := step_use_some stepped
  exact ⟨allowed, backend, .of_step used, moved⟩

theorem step_construct
    (stepped : before.step emitter .construct = some after) :
    ∃ member rest, before.pending = member :: rest ∧
      after = {
        backend := constructMember before.backend member
        pending := rest } := by
  simp only [step] at stepped
  split at stepped
  · rename_i member rest pending
    exact ⟨member, rest, pending, (Option.some.inj stepped).symm⟩
  · cases stepped

omit [DecidableEq ι] [DecidableEq κ] in
/-- Initializing a member moves no thread. -/
theorem constructMember_threads (backend : AsyncBackend ι κ ρ ε)
    (member : Member) :
    (constructMember backend member).stopper = backend.stopper ∧
      (constructMember backend member).worker = backend.worker := by
  cases member <;> exact ⟨rfl, rfl⟩

theorem Building.construct (building : before.Building)
    (stepped : before.step emitter .construct = some after) :
    after.Building := by
  obtain ⟨member, rest, pending, rfl⟩ := step_construct stepped
  obtain ⟨stopper, _⟩ := constructMember_threads before.backend member
  constructor
  · intro stopping
    dsimp only at stopping
    rw [stopper] at stopping
    have none := building.stopping stopping
    rw [pending] at none
    cases none
  · intro initialized outside
    dsimp only at initialized outside ⊢
    rw [stopper] at outside
    cases member with
    | running => rfl
    | _ =>
        apply building.running _ outside
        simpa [pending] using initialized

theorem Building.use (building : before.Building)
    {label : AsyncLabel ι κ ρ φ}
    (stepped : before.step emitter (.use label) = some after) :
    after.Building := by
  obtain ⟨allowed, backend, used, rfl⟩ := step_use stepped
  obtain ⟨stopping, running⟩ := building
  constructor
  · intro stopped
    rcases allowed with byWorker | complete
    · cases used <;> first | exact stopping stopped | cases byWorker
    · exact complete
  · intro initialized outside
    cases used <;> first | exact running initialized outside | cases outside

theorem Building.preserved [Inhabited ρ] {storage : Storage}
    {capacity : Nat} {policy : OverflowPolicy} {output : ε} :
    (constructionMachine ι κ emitter storage capacity policy
      output).Preserves Machine.Free Building := by
  intro before label after stepped _ building
  cases label with
  | construct =>
      have built : before.step emitter .construct = some after := stepped
      exact building.construct built
  | use label => exact building.use stepped

omit [DecidableEq ι] [DecidableEq κ] in
theorem Building.start [Inhabited ρ] (storage : Storage) (capacity : Nat)
    (policy : OverflowPolicy) (output : ε) :
    (make storage capacity policy output :
      Construction ι κ ρ ε).Building where
  stopping stopped := absurd rfl stopped
  running initialized := absurd (List.mem_cons_self ..) initialized

/-- A step of the worker that does not test `m_running` does not leave the
first loop. -/
theorem serves_of_step {label : AsyncLabel ι κ ρ φ}
    {backend next : AsyncBackend ι κ ρ ε}
    (used : AsyncStep emitter backend label next)
    (noCheck : label ≠ .workerCheck)
    (serves : backend.stopper = .outside →
      backend.worker.leftServing = false)
    (outside : next.stopper = .outside) :
    next.worker.leftServing = false := by
  cases used with
  | workerCheck checking => exact absurd rfl noCheck
  | @workerPop loop _ _ place _ | @workerWrite loop _ _ place =>
      have inFirst := serves outside
      rw [place] at inFirst
      cases loop with
      | serving => rfl
      | draining => cases inFirst
  | workerDrained place _ | workerDraining place | workerFlush place =>
      have inFirst := serves outside
      rw [place] at inFirst
      cases inFirst
  | workerMiss | workerServed | workerEqual | workerUnequal
  | workerNotify => rfl
  | stopBegin | stopAgain | stopShutdown | stopJoin => cases outside
  | _ => exact serves outside

/-- The test of `m_running` is the only step that may take the worker out of
its first loop, and it does so before `stop` only if it finds neither the
initialized member nor `true`. -/
theorem servesUntilStopped_iff (building : before.Building)
    (serves : before.ServesUntilStopped)
    {label : ConstructionLabel ι κ ρ φ}
    (stepped : before.step emitter label = some after) :
    after.ServesUntilStopped ↔ before.ChecksInitialized label := by
  cases label with
  | construct =>
      obtain ⟨member, rest, _, rfl⟩ := step_construct stepped
      obtain ⟨stopper, worker⟩ :=
        constructMember_threads before.backend member
      simp only [ChecksInitialized, iff_true, ServesUntilStopped, stopper,
        worker]
      exact serves
  | use label =>
      obtain ⟨_, backend, used, rfl⟩ := step_use stepped
      by_cases checks : label = .workerCheck
      · subst label
        cases used with
        | workerCheck checking =>
            cases running : before.backend.mRunning with
            | true =>
                exact iff_of_true (fun _ => rfl) (.inr running)
            | false =>
                constructor
                · intro servesAfter
                  by_contra unchecked
                  obtain ⟨uninitialized, _⟩ := not_or.mp unchecked
                  have outside : before.backend.stopper = .outside := by
                    by_contra stopped
                    exact uninitialized (by simp [building.stopping stopped])
                  cases servesAfter outside
                · rintro (isInitialized | isRunning) outside
                  · have isRunning := building.running isInitialized outside
                    rw [running] at isRunning
                    cases isRunning
                  · rw [running] at isRunning
                    cases isRunning
      · have trivially : before.ChecksInitialized (.use label) := by
          cases label <;> trivial
        exact iff_of_true (serves_of_step used checks serves) trivially

end Steps

end Construction

/-- In every run, the worker stays in its first loop until it is stopped
exactly if it never tests `m_running` before the member is initialized, unless
the storage held `true`. -/
theorem serves_until_stopped_iff {ι κ ρ ε φ : Type} [DecidableEq ι]
    [DecidableEq κ] [Inhabited ρ] {emitter : Emitter ρ ε φ}
    {storage : Storage} {capacity : Nat} {policy : OverflowPolicy}
    {output : ε} {labels : List (ConstructionLabel ι κ ρ φ)}
    {construction : Construction ι κ ρ ε}
    (run : (constructionMachine ι κ emitter storage capacity policy
      output).Run Machine.Free (.make storage capacity policy output) labels
        construction) :
    (∀ transition ∈ (constructionMachine ι κ emitter storage capacity policy
        output).transitions (.make storage capacity policy output) labels,
      transition.after.ServesUntilStopped) ↔
    ∀ transition ∈ (constructionMachine ι κ emitter storage capacity policy
        output).transitions (.make storage capacity policy output) labels,
      transition.before.ChecksInitialized transition.label := by
  apply run.throughout_iff Construction.Building.preserved
  · exact .start storage capacity policy output
  · intro before label after stepped _ building serves
    exact Construction.servesUntilStopped_iff building serves stepped
  · intro _
    rfl

/-- The constructor is done before the worker tests the member. -/
theorem serves_until_stopped_built :
    ∃ construction,
      (constructionMachine Unit Unit (Emitter.silent : Emitter Nat Unit Unit)
        ⟨false, 7, 3⟩ 1 .block ()).Run Machine.Free
        (.make ⟨false, 7, 3⟩ 1 .block ())
        [.construct, .construct, .construct, .construct, .construct,
          .use .workerCheck, .use (.logPush () 4), .use .workerPop]
        construction ∧
      ∀ transition ∈ (constructionMachine Unit Unit
          (Emitter.silent : Emitter Nat Unit Unit)
          ⟨false, 7, 3⟩ 1 .block ()).transitions
          (.make ⟨false, 7, 3⟩ 1 .block ())
          [.construct, .construct, .construct, .construct, .construct,
            .use .workerCheck, .use (.logPush () 4), .use .workerPop],
        transition.after.ServesUntilStopped := by
  obtain ⟨construction, run, _⟩ := Machine.exists_run
    (constructionMachine Unit Unit (Emitter.silent : Emitter Nat Unit Unit)
      ⟨false, 7, 3⟩ 1 .block ())
    Machine.Free (.make ⟨false, 7, 3⟩ 1 .block ())
    [.construct, .construct, .construct, .construct, .construct,
      .use .workerCheck, .use (.logPush () 4), .use .workerPop]
    (fun _ => True) (by decide +kernel)
  exact ⟨construction, run,
    (serves_until_stopped_iff run).mpr (by decide +kernel)⟩

/-- The storage held `false`, and the worker is the first to look: it is in the
loop that only drains the queue, and nobody has called `stop`. -/
theorem worker_leaves_unstopped :
    ∃ construction,
      (constructionMachine Unit Unit (Emitter.silent : Emitter Nat Unit Unit)
        ⟨false, 0, 0⟩ 1 .block ()).Run Machine.Free
        (.make ⟨false, 0, 0⟩ 1 .block ())
        [.use .workerCheck, .construct, .construct, .construct, .construct,
          .construct] construction ∧
      ¬ construction.ServesUntilStopped :=
  Machine.exists_run
    (constructionMachine Unit Unit (Emitter.silent : Emitter Nat Unit Unit)
      ⟨false, 0, 0⟩ 1 .block ())
    Machine.Free (.make ⟨false, 0, 0⟩ 1 .block ())
    [.use .workerCheck, .construct, .construct, .construct, .construct,
      .construct]
    (fun construction => ¬ construction.ServesUntilStopped)
    (by decide +kernel)

end LogParse
