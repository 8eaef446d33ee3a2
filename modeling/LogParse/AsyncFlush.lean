import LogParse.AsyncAccounting
import LogParse.Library.Cover
import Mathlib.Data.Fintype.Basic

/-!
# The wait of `flush`

`flush` goes on when the two counters are equal.  As a barrier this fails when
a record that is processed but not yet submitted stands in for one that is
submitted but not yet processed.  As a wait it fails when an increment of
`m_submitted`, which nobody announces, makes the counters equal after a caller
has gone to sleep.
-/

namespace LogParse

/-- The counter was read when the history was as long as what it has seen. -/
structure Loaded.Counts (loaded : Loaded) (history : List Nat) : Prop where
  earlier : loaded.seen <+: history
  value_eq : loaded.value = UInt64.ofNat loaded.seen.length

theorem Loaded.Counts.mono {loaded : Loaded} {history later : List Nat}
    (counts : loaded.Counts history) (grown : history <+: later) :
    loaded.Counts later :=
  ⟨counts.earlier.trans grown, counts.value_eq⟩

/-- A caller of `flush` waits for submitted records only, and what it waits
for is processed or evicted once it has passed. -/
def FlushCall.Covered (counted finished evicted : List Nat) :
    FlushCall → Prop
  | .outside => True
  | .entering due | .asleep due => due ⊆ counted
  | .testing due processed submitted =>
      due ⊆ counted ∧ (∀ loaded ∈ processed, loaded.Counts finished) ∧
        ∀ loaded ∈ submitted, loaded.Counts counted ∧ due ⊆ loaded.seen
  | .passed due => ∀ ticket ∈ due, ticket ∈ finished ∨ ticket ∈ evicted

theorem FlushCall.Covered.mono {call : FlushCall}
    {counted finished evicted counted' finished' evicted' : List Nat}
    (covered : call.Covered counted finished evicted)
    (countedGrown : counted <+: counted')
    (finishedGrown : finished <+: finished')
    (evictedGrown : evicted ⊆ evicted') :
    call.Covered counted' finished' evicted' := by
  cases call with
  | outside => trivial
  | entering due | asleep due =>
      exact List.Subset.trans covered countedGrown.subset
  | testing due processed submitted =>
      obtain ⟨asked, processedCounts, submittedCounts⟩ := covered
      refine ⟨List.Subset.trans asked countedGrown.subset, ?_, ?_⟩
      · intro loaded isLoaded
        exact (processedCounts loaded isLoaded).mono finishedGrown
      · intro loaded isLoaded
        obtain ⟨counts, contains⟩ := submittedCounts loaded isLoaded
        exact ⟨counts.mono countedGrown, contains⟩
  | passed due =>
      intro ticket member
      exact (covered ticket member).imp (finishedGrown.subset ·)
        (evictedGrown ·)

namespace AsyncBackend

variable {ι κ ρ ε φ : Type} [DecidableEq ι] [DecidableEq κ]

/-- When a comparison lets a caller pass, the records it has seen processed
and not submitted are no more than those it has seen submitted and that were
evicted since; and fewer records were accepted than a counter can count. -/
def fairPass (before : AsyncBackend ι κ ρ ε) :
    AsyncLabel ι κ ρ φ → Bool
  | .flushDecide caller =>
      match before.flushers caller with
      | .testing _ (some processed) (some submitted) =>
          let evicted := before.custody.ledger.evicted
          processed.value ≠ submitted.value ||
            (before.custody.ledger.accepted.length < 2 ^ 64 &&
              (processed.seen.filter (· ∉ submitted.seen)).length ≤
                (submitted.seen.filter (· ∈ evicted)).length)
      | _ => true
  | _ => true

abbrev FairPass (before : AsyncBackend ι κ ρ ε)
    (label : AsyncLabel ι κ ρ φ) : Prop :=
  before.fairPass label = true

structure Barrier (backend : AsyncBackend ι κ ρ ε) : Prop where
  accounts : backend.Accounts
  covered : ∀ caller, (backend.flushers caller).Covered backend.counted
    backend.finished backend.custody.ledger.evicted

namespace Accounts

variable {backend : AsyncBackend ι κ ρ ε}

omit [DecidableEq ι] [DecidableEq κ] in
theorem finished_custody (accounts : backend.Accounts) :
    ∃ rest, (backend.custody.ledger.delivered ++
      backend.custody.queue.contents).map Ticketed.ticket =
        backend.finished ++ rest := by
  rw [List.map_append, accounts.delivery.tickets_eq, List.append_assoc]
  exact ⟨_, rfl⟩

omit [DecidableEq ι] [DecidableEq κ] in
theorem finished_nodup (accounts : backend.Accounts) :
    backend.finished.Nodup := by
  obtain ⟨rest, custodyEq⟩ := accounts.finished_custody
  have nodup := accounts.sound.balanced.tickets_nodup
  rw [custodyEq] at nodup
  exact (List.nodup_append.mp nodup).1

omit [DecidableEq ι] [DecidableEq κ] in
theorem finished_custodial (accounts : backend.Accounts) {ticket : Nat}
    (member : ticket ∈ backend.finished) :
    ticket < backend.custody.ledger.accepted.length ∧
      ticket ∉ backend.custody.ledger.evicted := by
  obtain ⟨rest, custodyEq⟩ := accounts.finished_custody
  apply (accounts.sound.balanced.mem_tickets_iff ticket).mp
  rw [custodyEq]
  exact List.mem_append_left rest member

omit [DecidableEq ι] [DecidableEq κ] in
theorem finished_length_le (accounts : backend.Accounts) :
    backend.finished.length ≤ backend.custody.ledger.accepted.length := by
  have balance := accounts.conservation
  omega

omit [DecidableEq ι] [DecidableEq κ] in
/-- A record that is processed or evicted is not in the queue. -/
theorem notMem_contents (accounts : backend.Accounts) {ticket : Nat}
    (gone : ticket ∈ backend.finished ∨
      ticket ∈ backend.custody.ledger.evicted) :
    ticket ∉ backend.custody.queue.contents.map Ticketed.ticket := by
  intro queued
  have nodup := accounts.sound.balanced.tickets_nodup
  have custody := accounts.sound.balanced.mem_tickets_iff ticket
  rw [List.map_append] at nodup custody
  rcases gone with isFinished | isEvicted
  · have delivered : ticket ∈
        backend.custody.ledger.delivered.map Ticketed.ticket := by
      rw [accounts.delivery.tickets_eq]
      exact List.mem_append_left _ isFinished
    exact (List.nodup_append.mp nodup).2.2 ticket delivered ticket queued rfl
  · exact (custody.mp (List.mem_append_right _ queued)).2 isEvicted

omit [DecidableEq ι] [DecidableEq κ] in
/-- A comparison that is not taken in by stand-ins is right. -/
theorem pass (accounts : backend.Accounts) {due : List Nat}
    {processed submitted : Loaded}
    (equal : processed.value = submitted.value)
    (processedCounts : processed.Counts backend.finished)
    (submittedCounts : submitted.Counts backend.counted)
    (asked : due ⊆ submitted.seen)
    (few : backend.custody.ledger.accepted.length < 2 ^ 64)
    (fair : (processed.seen.filter (· ∉ submitted.seen)).length ≤
      (submitted.seen.filter
        (· ∈ backend.custody.ledger.evicted)).length) :
    ∀ ticket ∈ due,
      ticket ∈ backend.finished ∨ ticket ∈ backend.custody.ledger.evicted := by
  have processedLength := Nat.le_trans processedCounts.earlier.length_le
    accounts.finished_length_le
  have submittedLength := Nat.le_trans submittedCounts.earlier.length_le
    accounts.submission.length_le
  have sameLength : processed.seen.length = submitted.seen.length := by
    rw [processedCounts.value_eq, submittedCounts.value_eq,
      ← UInt64.toNat_inj, UInt64.toNat_ofNat', UInt64.toNat_ofNat'] at equal
    omega
  intro ticket member
  have outcome := done_or_lost
    (accounts.finished_nodup.sublist processedCounts.earlier.sublist)
    (accounts.submission.nodup.sublist submittedCounts.earlier.sublist)
    sameLength
    (fun item isDone => (accounts.finished_custodial
      (processedCounts.earlier.subset isDone)).2)
    fair ticket (asked member)
  exact outcome.imp_left (processedCounts.earlier.subset ·)

end Accounts

namespace Barrier

variable {before after backend : AsyncBackend ι κ ρ ε}
  {emitter : Emitter ρ ε φ} {label : AsyncLabel ι κ ρ φ}

omit [DecidableEq ι] in
theorem placed (barrier : before.Barrier) {caller : κ} {place : FlushCall}
    (covered : place.Covered before.counted before.finished
      before.custody.ledger.evicted) (other : κ) :
    (Function.update before.flushers caller place other).Covered
      before.counted before.finished before.custody.ledger.evicted := by
  by_cases same : other = caller
  · subst other
    rw [Function.update_self]
    exact covered
  · rw [Function.update_of_ne same]
    exact barrier.covered other

theorem step (barrier : before.Barrier) (fair : before.FairPass label)
    (stepped : AsyncStep emitter before label after) : after.Barrier := by
  refine ⟨barrier.accounts.step stepped, ?_⟩
  have atCaller (caller : κ) := barrier.covered caller
  cases stepped with
  | logAccepted outside pushed =>
      intro caller
      have accepted := barrier.accounts.sound.accepted pushed
      refine (atCaller caller).mono List.prefix_rfl List.prefix_rfl ?_
      dsimp only
      rw [accepted.ledger]
      exact before.custody.evictOldest_evicted
  | logRefused outside pushed =>
      obtain ⟨_, rfl⟩ := barrier.accounts.sound.refused pushed
      exact atCaller
  | logCount submitting =>
      intro caller
      exact (atCaller caller).mono (List.prefix_append _ _) List.prefix_rfl
        (List.Subset.refl _)
  | workerPop popping popped =>
      intro caller
      have delivered := barrier.accounts.sound.delivered popped
      dsimp only
      rw [delivered.ledger]
      exact atCaller caller
  | workerMiss popping popped | workerDrained popping popped =>
      obtain ⟨_, _, rfl⟩ := barrier.accounts.sound.ended popped
      exact atCaller
  | workerServed counting | workerDraining counting =>
      intro caller
      exact (atCaller caller).mono List.prefix_rfl (List.prefix_append _ _)
        (List.Subset.refl _)
  | workerNotify notifying unlocked =>
      intro caller
      have covered := atCaller caller
      dsimp only
      cases place : before.flushers caller <;> rw [place] at covered <;>
        exact covered
  | @flushEnter caller outside =>
      exact barrier.placed (List.Subset.refl _)
  | @flushLock caller due entering unlocked =>
      have covered := atCaller caller
      rw [entering] at covered
      exact barrier.placed ⟨covered, by simp, by simp⟩
  | @flushLoadProcessed caller due submitted testing =>
      have covered := atCaller caller
      rw [testing] at covered
      obtain ⟨asked, _, submittedCounts⟩ := covered
      refine barrier.placed ⟨asked, ?_, submittedCounts⟩
      rintro loaded ⟨⟩
      exact ⟨List.prefix_rfl, barrier.accounts.processed_eq⟩
  | @flushLoadSubmitted caller due processed testing =>
      have covered := atCaller caller
      rw [testing] at covered
      obtain ⟨asked, processedCounts, _⟩ := covered
      refine barrier.placed ⟨asked, processedCounts, ?_⟩
      rintro loaded ⟨⟩
      exact ⟨⟨List.prefix_rfl, barrier.accounts.submitted_eq⟩, asked⟩
  | @flushPass caller due processed submitted testing equal =>
      have covered := atCaller caller
      rw [testing] at covered
      obtain ⟨_, processedCounts, submittedCounts⟩ := covered
      obtain ⟨counts, asked⟩ := submittedCounts submitted rfl
      have fairly : before.custody.ledger.accepted.length < 2 ^ 64 ∧
          (processed.seen.filter (· ∉ submitted.seen)).length ≤
            (submitted.seen.filter
              (· ∈ before.custody.ledger.evicted)).length := by
        simpa [FairPass, fairPass, testing, equal] using fair
      exact barrier.placed (barrier.accounts.pass equal
        (processedCounts processed rfl) counts asked fairly.1 fairly.2)
  | @flushSleep caller due processed submitted testing unequal =>
      have covered := atCaller caller
      rw [testing] at covered
      exact barrier.placed covered.1
  | @flushSpurious caller due asleep =>
      have covered := atCaller caller
      rw [asleep] at covered
      exact barrier.placed covered
  | flushReturn passed => exact barrier.placed trivial
  | workerCheck | workerWrite | workerEqual | workerUnequal | workerFlush
  | stopBegin | stopAgain | stopShutdown | stopJoin => exact atCaller

omit [DecidableEq κ] [DecidableEq ι] in
theorem start [Inhabited ρ] {capacity : Nat} (policy : OverflowPolicy)
    (positive : 0 < capacity) (output : ε) :
    (AsyncBackend.make capacity policy output :
      AsyncBackend ι κ ρ ε).Barrier :=
  ⟨.start policy positive output, fun _ => trivial⟩

theorem preserved [Inhabited ρ] {capacity : Nat} {policy : OverflowPolicy}
    {output : ε} :
    (asyncMachine ι κ emitter capacity policy output).Preserves FairPass
      Barrier :=
  fun _ _ _ stepped fair barrier => barrier.step fair (.of_step stepped)

end Barrier

/-- In a run whose comparisons are fair, a caller that passes leaves none of
the records behind whose `log` had returned when it called `flush`. -/
theorem flush_is_barrier [Inhabited ρ] {capacity : Nat}
    (positive : 0 < capacity) {policy : OverflowPolicy}
    {emitter : Emitter ρ ε φ} {output : ε} {backend : AsyncBackend ι κ ρ ε}
    {labels : List (AsyncLabel ι κ ρ φ)}
    (run : (asyncMachine ι κ emitter capacity policy output).Run FairPass
      (.make capacity policy output) labels backend)
    {caller : κ} {due : List Nat}
    (passed : backend.flushers caller = .passed due) :
    ∀ ticket ∈ due,
      (ticket ∈ backend.finished ∨
        ticket ∈ backend.custody.ledger.evicted) ∧
      ticket ∉ backend.custody.queue.contents.map Ticketed.ticket := by
  obtain ⟨accounts, covered⟩ :=
    run.invariant Barrier.preserved (Barrier.start policy positive output)
  have callerCovered := covered caller
  rw [passed] at callerCovered
  intro ticket member
  have gone := callerCovered ticket member
  exact ⟨gone, accounts.notMem_contents gone⟩

theorem flush_is_barrier_after_one_record :
    ∃ backend : AsyncBackend Unit Unit Nat Unit,
      (asyncMachine Unit Unit Emitter.silent 1 .block ()).Reachable
        backend ∧
      backend.flushers () = .passed [0] ∧ 0 ∈ backend.finished ∧
      ∀ ticket ∈ [0],
        (ticket ∈ backend.finished ∨
          ticket ∈ backend.custody.ledger.evicted) ∧
        ticket ∉ backend.custody.queue.contents.map Ticketed.ticket := by
  obtain ⟨backend, run, passed, processed⟩ := Machine.exists_run
    (asyncMachine Unit Unit (Emitter.silent (ρ := Nat)) 1 .block ())
    FairPass (.make 1 .block ())
    [.logPush () 7, .logCount (), .flushEnter (), .workerCheck, .workerPop,
      .workerWrite (), .workerCount, .flushLock (), .flushLoadSubmitted (),
      .flushLoadProcessed (), .flushDecide ()]
    (fun backend => backend.flushers () = .passed [0] ∧
      0 ∈ backend.finished) (by decide)
  exact ⟨backend, ⟨_, run.free⟩, passed, processed,
    flush_is_barrier (by decide) run passed⟩

/-- The record of the second producer is processed before it is submitted.
It stands in for the record of the first, whose `log` has returned and which
waits in the queue. -/
theorem flush_passes_queued_record :
    ∃ backend : AsyncBackend (Fin 2) Unit Nat Unit,
      (asyncMachine (Fin 2) Unit Emitter.silent 2 .block ()).Reachable
        backend ∧
      backend.flushers () = .passed [1] ∧
      1 ∈ backend.custody.queue.contents.map Ticketed.ticket ∧
      1 ∉ backend.finished ∧ 1 ∉ backend.custody.ledger.evicted := by
  obtain ⟨backend, run, outcome⟩ := Machine.exists_run
    (asyncMachine (Fin 2) Unit (Emitter.silent (ρ := Nat)) 2 .block ())
    Machine.Free (.make 2 .block ())
    [.logPush 1 8, .workerCheck, .workerPop, .workerWrite (), .workerCount,
      .logPush 0 7, .logCount 0, .flushEnter (), .flushLock (),
      .flushLoadProcessed (), .flushLoadSubmitted (), .flushDecide ()]
    (fun backend => backend.flushers () = .passed [1] ∧
      1 ∈ backend.custody.queue.contents.map Ticketed.ticket ∧
      1 ∉ backend.finished ∧ 1 ∉ backend.custody.ledger.evicted) (by decide)
  exact ⟨backend, ⟨_, run⟩, outcome⟩

end AsyncBackend

/-- A caller that does not sleep and has loaded no other values than these. -/
def FlushCall.upToDate (processed submitted : UInt64) : FlushCall → Bool
  | .testing _ loadedProcessed loadedSubmitted =>
      loadedProcessed.all (·.value = processed) &&
        loadedSubmitted.all (·.value = submitted)
  | .asleep _ => false
  | .outside | .entering _ | .passed _ => true

namespace FlushCall

@[simp] theorem holdsMutex_wake (call : FlushCall) :
    call.wake.holdsMutex = call.holdsMutex := by
  cases call <;> rfl

theorem upToDate_wake {call : FlushCall} (free : call.holdsMutex = false)
    (processed submitted : UInt64) :
    call.wake.upToDate processed submitted = true := by
  cases call <;> first | rfl | simp [holdsMutex] at free

end FlushCall

def AsyncLabel.isLogCount {ι κ ρ φ : Type} : AsyncLabel ι κ ρ φ → Bool
  | .logCount _ => true
  | _ => false

namespace AsyncBackend

variable {ι κ ρ ε φ : Type} [DecidableEq ι] [DecidableEq κ]

/-- When an increment of `m_submitted` makes the counters equal, the worker is
about to compare them, or no caller of `flush` sleeps or has loaded a value
that has changed since. -/
def TimelyCount (before : AsyncBackend ι κ ρ ε)
    (label : AsyncLabel ι κ ρ φ) : Prop :=
  label.isLogCount = true → before.mSubmitted + 1 = before.mProcessed →
    before.worker.comparesNext = true ∨
      ∀ caller, (before.flushers caller).upToDate before.mProcessed
        before.mProcessed = true

instance [Fintype κ] (before : AsyncBackend ι κ ρ ε)
    (label : AsyncLabel ι κ ρ φ) : Decidable (before.TimelyCount label) :=
  inferInstanceAs (Decidable
    (label.isLogCount = true → before.mSubmitted + 1 = before.mProcessed →
      before.worker.comparesNext = true ∨
        ∀ caller, (before.flushers caller).upToDate before.mProcessed
          before.mProcessed = true))

/-- While the backend runs and the counters are equal, the worker is on its
way to notify, or nobody needs it. -/
structure Watched (backend : AsyncBackend ι κ ρ ε) : Prop where
  accounts : backend.Accounts
  running : backend.stopper = .outside → backend.mRunning = true
  serving : backend.mRunning = true → backend.worker.leftServing = false
  locked : ∀ caller, (backend.flushers caller).holdsMutex = true →
    backend.mFlushMutex = some caller
  watch : backend.mRunning = true →
    backend.mProcessed = backend.mSubmitted →
    backend.worker.comparesNext = false →
    ∀ caller, (backend.flushers caller).upToDate backend.mProcessed
      backend.mSubmitted = true

namespace Watched

variable {before after backend : AsyncBackend ι κ ρ ε}
  {emitter : Emitter ρ ε φ} {label : AsyncLabel ι κ ρ φ}

omit [DecidableEq ι] in
/-- One caller of `flush` moves on. -/
theorem place (watched : before.Watched) {caller : κ} {call : FlushCall}
    {mutex : Option κ} {output : ε} {calls : List (SinkCall ρ)}
    (locked : call.holdsMutex = true → mutex = some caller)
    (others : ∀ other, other ≠ caller →
      (before.flushers other).holdsMutex = true → mutex = some other)
    (upToDate : before.mProcessed = before.mSubmitted →
      (before.flushers caller).upToDate before.mProcessed
        before.mSubmitted = true →
      call.upToDate before.mProcessed before.mSubmitted = true)
    (accounts : ({ before.placeFlusher caller call with
      output := output
      calls := calls
      mFlushMutex := mutex } : AsyncBackend ι κ ρ ε).Accounts) :
    ({ before.placeFlusher caller call with
      output := output
      calls := calls
      mFlushMutex := mutex } : AsyncBackend ι κ ρ ε).Watched := by
  refine ⟨accounts, watched.running, watched.serving, ?_, ?_⟩
  · intro other holds
    by_cases same : other = caller
    · subst other
      exact locked (by simpa [placeFlusher] using holds)
    · exact others other same (by simpa [placeFlusher, same] using holds)
  · intro running equal quiet other
    have watch := watched.watch running equal quiet
    by_cases same : other = caller
    · subst other
      simpa [placeFlusher] using upToDate equal (watch _)
    · simpa [placeFlusher, same] using watch other

omit [DecidableEq ι] [DecidableEq κ] in
/-- The caller that holds the mutex is the only one that does. -/
theorem holder_unique (watched : before.Watched) {caller : κ}
    (holds : (before.flushers caller).holdsMutex = true) (other : κ)
    (different : other ≠ caller) :
    (before.flushers other).holdsMutex = false := by
  by_contra otherHolds
  have same := (watched.locked caller holds).symm.trans
    (watched.locked other (by simpa using otherHolds))
  exact different (Option.some.inj same).symm

omit [DecidableEq ι] [DecidableEq κ] in
/-- The worker moves between steps that neither count nor notify. -/
theorem move (watched : before.Watched) {custody : Custody ρ}
    {next : Worker ρ} {output : ε} {calls : List (SinkCall ρ)}
    (serving : before.mRunning = true → next.leftServing = false)
    (quiet : before.mProcessed = before.mSubmitted →
      next.comparesNext = false → before.worker.comparesNext = false)
    (accounts : ({ before with
      custody := custody
      output := output
      calls := calls
      worker := next } : AsyncBackend ι κ ρ ε).Accounts) :
    ({ before with
      custody := custody
      output := output
      calls := calls
      worker := next } : AsyncBackend ι κ ρ ε).Watched :=
  ⟨accounts, watched.running, serving, watched.locked,
    fun running equal quietAfter =>
      watched.watch running equal (quiet equal quietAfter)⟩

theorem step (watched : before.Watched) (timely : before.TimelyCount label)
    (stepped : AsyncStep emitter before label after) : after.Watched := by
  have accounts := watched.accounts.step stepped
  have serving := watched.serving
  cases stepped with
  | logCount submitting =>
      refine ⟨accounts, watched.running, serving, watched.locked, ?_⟩
      intro running equal quiet caller
      dsimp only at running equal quiet ⊢
      rcases timely rfl equal.symm with compares | upToDate
      · rw [quiet] at compares
        simp at compares
      · rw [← equal]
        exact upToDate caller
  | workerCheck checking =>
      refine watched.move ?_ ?_ accounts
      · intro running
        simp [running, Worker.leftServing]
      · simp [checking, Worker.comparesNext]
  | @workerPop loop entry custody place popped
  | @workerWrite loop entry fault place =>
      refine watched.move ?_ ?_ accounts
      · rw [place] at serving
        cases loop <;> exact serving
      · simp [place, Worker.comparesNext]
  | workerMiss popping popped =>
      refine watched.move ?_ ?_ accounts
      · simp [Worker.leftServing]
      · simp [popping, Worker.comparesNext]
  | workerDrained place _ | workerFlush place =>
      refine watched.move ?_ ?_ accounts
      · rw [place] at serving
        exact serving
      · simp [place, Worker.comparesNext]
  | workerServed counting =>
      refine ⟨accounts, watched.running, ?_, watched.locked, ?_⟩
      · simp [Worker.leftServing]
      · simp [Worker.comparesNext]
  | workerDraining counting =>
      rw [counting] at serving
      refine ⟨accounts, watched.running, serving, watched.locked, ?_⟩
      intro running
      exact absurd (serving running) (by simp [Worker.leftServing])
  | workerEqual comparing =>
      refine watched.move ?_ ?_ accounts
      · simp [Worker.leftServing]
      · simp [Worker.comparesNext]
  | workerUnequal comparing unequal =>
      refine watched.move ?_ ?_ accounts
      · simp [Worker.leftServing]
      · intro equal
        rw [watched.accounts.comparing _ comparing] at unequal
        exact absurd equal unequal
  | workerNotify notifying unlocked =>
      have nobodyHolds (caller : κ) :
          (before.flushers caller).holdsMutex = false := by
        by_contra holds
        have locked := watched.locked caller (by simpa using holds)
        simp [unlocked] at locked
      refine ⟨accounts, watched.running, ?_, ?_, ?_⟩
      · simp [Worker.leftServing]
      · intro caller holds
        rw [FlushCall.holdsMutex_wake, nobodyHolds] at holds
        simp at holds
      · intro _ _ _ caller
        exact FlushCall.upToDate_wake (nobodyHolds caller) _ _
  | flushEnter outside =>
      exact watched.place (by simp [FlushCall.holdsMutex])
        (fun other _ => watched.locked other) (fun _ _ => rfl) accounts
  | flushLock entering unlocked =>
      refine watched.place (fun _ => rfl) ?_ (fun _ _ => rfl) accounts
      intro other _ holds
      have locked := watched.locked other holds
      simp [unlocked] at locked
  | @flushLoadProcessed caller due _ testing
  | @flushLoadSubmitted caller due _ testing =>
      refine watched.place ?_ (fun other _ => watched.locked other) ?_
        accounts
      · intro _
        exact watched.locked caller (by simp [testing, FlushCall.holdsMutex])
      · intro _ loaded
        simpa [testing, FlushCall.upToDate] using loaded
  | @flushPass caller due processed submitted testing equal =>
      refine watched.place ?_ (fun other _ => watched.locked other)
        (fun _ _ => rfl) accounts
      intro _
      exact watched.locked caller (by simp [testing, FlushCall.holdsMutex])
  | @flushSleep caller due processed submitted testing unequal =>
      refine watched.place (by simp [FlushCall.holdsMutex]) ?_ ?_ accounts
      · intro other different holds
        have free := watched.holder_unique
          (by simp [testing, FlushCall.holdsMutex]) other different
        simp [free] at holds
      · intro equal loaded
        obtain ⟨processedEq, submittedEq⟩ :
            processed.value = before.mProcessed ∧
              submitted.value = before.mSubmitted := by
          simpa [testing, FlushCall.upToDate] using loaded
        rw [processedEq, submittedEq] at unequal
        exact absurd equal unequal
  | flushSpurious asleep =>
      exact watched.place (by simp [FlushCall.holdsMutex])
        (fun other _ => watched.locked other) (fun _ _ => rfl) accounts
  | @flushReturn caller due passed =>
      refine watched.place (by simp [FlushCall.holdsMutex]) ?_
        (fun _ _ => rfl) accounts
      intro other different holds
      have free := watched.holder_unique
        (by simp [passed, FlushCall.holdsMutex]) other different
      simp [free] at holds
  | stopBegin outside running =>
      exact ⟨accounts, by simp, by simp, watched.locked, by simp⟩
  | stopAgain outside stopped =>
      exact ⟨accounts, by simp, serving, watched.locked, watched.watch⟩
  | stopShutdown shuttingDown | stopJoin joining returned =>
      exact ⟨accounts, by simp, serving, watched.locked, watched.watch⟩
  | logAccepted outside pushed | logRefused outside pushed =>
      exact ⟨accounts, watched.running, serving, watched.locked,
        watched.watch⟩

omit [DecidableEq κ] [DecidableEq ι] in
theorem start [Inhabited ρ] {capacity : Nat} (policy : OverflowPolicy)
    (positive : 0 < capacity) (output : ε) :
    (AsyncBackend.make capacity policy output :
      AsyncBackend ι κ ρ ε).Watched where
  accounts := .start policy positive output
  running _ := rfl
  serving _ := rfl
  locked _ holds := by simp [AsyncBackend.make, FlushCall.holdsMutex] at holds
  watch _ _ _ _ := rfl

theorem preserved [Inhabited ρ] {capacity : Nat} {policy : OverflowPolicy}
    {output : ε} :
    (asyncMachine ι κ emitter capacity policy output).Preserves TimelyCount
      Watched :=
  fun _ _ _ stepped timely watched => watched.step timely (.of_step stepped)

end Watched

/-- A caller sleeps although nothing is under way and the counters are
equal. -/
structure LeftAsleep (backend : AsyncBackend ι κ ρ ε) : Prop where
  unstopped : backend.stopper = .outside
  outside : ∀ producer, backend.producers producer = .outside
  empty : backend.custody.queue.contents = []
  waiting : ∃ loop, backend.worker = .popping loop
  equal : backend.mProcessed = backend.mSubmitted
  asleep : ∃ caller due, backend.flushers caller = .asleep due

omit [DecidableEq ι] [DecidableEq κ] in
theorem Watched.not_leftAsleep {backend : AsyncBackend ι κ ρ ε}
    (watched : backend.Watched) : ¬backend.LeftAsleep := by
  rintro ⟨unstopped, _, _, ⟨loop, waiting⟩, equal, caller, due, asleep⟩
  have upToDate := watched.watch (watched.running unstopped) equal
    (by simp [waiting, Worker.comparesNext]) caller
  simp [asleep, FlushCall.upToDate] at upToDate

end AsyncBackend

end LogParse
