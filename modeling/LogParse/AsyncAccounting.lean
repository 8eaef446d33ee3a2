import LogParse.AsyncBackend
import Mathlib.Data.List.Perm.Subperm

/-!
# The accounts of the asynchronous backend

`m_submitted` counts the records whose `log` has come to its increment,
`m_processed` those whose write has come to its own.  A record that
`DropOldest` evicts after it was submitted is never processed, and the two
counters stay apart by it.
-/

namespace LogParse

/-- Each accepted record is counted as submitted, or one producer is about to
count it. -/
structure Submission {ι : Type} (accepted : Nat) (counted : List Nat)
    (producers : ι → LogCall) : Prop where
  nodup : counted.Nodup
  known : ∀ ticket ∈ counted, ticket < accepted
  pending : ∀ producer ticket, producers producer = .submitting ticket →
    ticket < accepted ∧ ticket ∉ counted
  alone : ∀ producer other ticket,
    producers producer = .submitting ticket →
    producers other = .submitting ticket → producer = other
  complete : ∀ ticket < accepted, ticket ∈ counted ∨
    ∃ producer, producers producer = .submitting ticket

namespace Submission

variable {ι : Type} [DecidableEq ι] {accepted : Nat} {counted : List Nat}
  {producers : ι → LogCall} {producer : ι}

omit [DecidableEq ι] in
theorem start : Submission 0 [] fun _ : ι => LogCall.outside where
  nodup := List.nodup_nil
  known := by simp
  pending := by simp
  alone := by simp
  complete := by simp

theorem update_submitting {place : LogCall} {other : ι} {ticket : Nat}
    (submitting :
      Function.update producers producer place other = .submitting ticket) :
    (other = producer ∧ place = .submitting ticket) ∨
      (other ≠ producer ∧ producers other = .submitting ticket) := by
  by_cases same : other = producer
  · subst other
    exact Or.inl ⟨rfl, by simpa using submitting⟩
  · exact Or.inr ⟨same, by simpa [same] using submitting⟩

/-- A producer pushes the next record. -/
theorem push (submission : Submission accepted counted producers)
    (outside : producers producer = .outside) :
    Submission (accepted + 1) counted
      (Function.update producers producer (.submitting accepted)) where
  nodup := submission.nodup
  known ticket member := Nat.lt_succ_of_lt (submission.known ticket member)
  pending other ticket submitting := by
    rcases update_submitting submitting with ⟨_, same⟩ | ⟨_, before⟩
    · obtain rfl : accepted = ticket := by simpa using same
      exact ⟨Nat.lt_succ_self _, fun member =>
        Nat.lt_irrefl _ (submission.known _ member)⟩
    · obtain ⟨known, fresh⟩ := submission.pending other ticket before
      exact ⟨Nat.lt_succ_of_lt known, fresh⟩
  alone first second ticket firstSubmitting secondSubmitting := by
    rcases update_submitting firstSubmitting with
        ⟨rfl, same⟩ | ⟨_, firstBefore⟩ <;>
      rcases update_submitting secondSubmitting with
        ⟨rfl, same'⟩ | ⟨_, secondBefore⟩
    · rfl
    · obtain rfl : accepted = ticket := by simpa using same
      have known := (submission.pending second accepted secondBefore).1
      exact absurd known (Nat.lt_irrefl _)
    · obtain rfl : accepted = ticket := by simpa using same'
      have known := (submission.pending first accepted firstBefore).1
      exact absurd known (Nat.lt_irrefl _)
    · exact submission.alone first second ticket firstBefore secondBefore
  complete ticket known := by
    rcases Nat.lt_succ_iff_lt_or_eq.mp known with before | rfl
    · rcases submission.complete ticket before with
        member | ⟨other, submitting⟩
      · exact Or.inl member
      · refine Or.inr ⟨other, ?_⟩
        have different : other ≠ producer := by
          rintro rfl
          simp [outside] at submitting
        rw [Function.update_of_ne different, submitting]
    · exact Or.inr ⟨producer, by simp⟩

/-- A producer counts its record. -/
theorem count {ticket : Nat}
    (submission : Submission accepted counted producers)
    (submitting : producers producer = .submitting ticket) :
    Submission accepted (counted ++ [ticket])
      (Function.update producers producer .outside) where
  nodup := by
    have fresh := (submission.pending producer ticket submitting).2
    refine List.nodup_append.mpr ⟨submission.nodup,
      List.nodup_singleton _, ?_⟩
    rintro other member last isLast rfl
    rw [List.mem_singleton] at isLast
    exact fresh (isLast ▸ member)
  known other member := by
    rcases List.mem_append.mp member with before | last
    · exact submission.known other before
    · rw [List.mem_singleton.mp last]
      exact (submission.pending producer ticket submitting).1
  pending other pendingTicket otherSubmitting := by
    rcases update_submitting otherSubmitting with
      ⟨_, impossible⟩ | ⟨different, before⟩
    · simp at impossible
    · obtain ⟨known, fresh⟩ :=
        submission.pending other pendingTicket before
      refine ⟨known, ?_⟩
      simp only [List.mem_append, List.mem_singleton, not_or]
      refine ⟨fresh, ?_⟩
      rintro rfl
      exact different (submission.alone other producer _ before submitting)
  alone first second pendingTicket firstSubmitting secondSubmitting := by
    rcases update_submitting firstSubmitting with
      ⟨_, impossible⟩ | ⟨_, firstBefore⟩
    · simp at impossible
    · rcases update_submitting secondSubmitting with
        ⟨_, impossible⟩ | ⟨_, secondBefore⟩
      · simp at impossible
      · exact submission.alone first second _ firstBefore secondBefore
  complete other known := by
    rcases submission.complete other known with
      member | ⟨holder, holderSubmitting⟩
    · exact Or.inl (List.mem_append_left _ member)
    · by_cases same : holder = producer
      · subst holder
        obtain rfl : ticket = other := by
          simpa [submitting] using holderSubmitting
        exact Or.inl (by simp)
      · refine Or.inr ⟨holder, ?_⟩
        rw [Function.update_of_ne same, holderSubmitting]

omit [DecidableEq ι] in
theorem length_le (submission : Submission accepted counted producers) :
    counted.length ≤ accepted := by
  have bounded : counted ⊆ List.range accepted := fun ticket member =>
    List.mem_range.mpr (submission.known ticket member)
  simpa using (submission.nodup.subperm bounded).length_le

omit [DecidableEq ι] in
/-- With nobody inside `log`, every accepted record is counted. -/
theorem length_eq (submission : Submission accepted counted producers)
    (outside : ∀ producer, producers producer = .outside) :
    counted.length = accepted := by
  have all : List.range accepted ⊆ counted := by
    intro ticket member
    rcases submission.complete ticket (List.mem_range.mp member) with
      counted | ⟨producer, submitting⟩
    · exact counted
    · simp [outside] at submitting
  apply Nat.le_antisymm submission.length_le
  simpa using (List.nodup_range.subperm all).length_le

end Submission

/-- What was popped is written, then counted, in the order of the queue. -/
structure Delivery {ρ : Type} (delivered written : List (Ticketed ρ))
    (finished : List Nat) (worker : Worker ρ) : Prop where
  written_eq : delivered = written ++ worker.unwritten
  finished_eq : written.map Ticketed.ticket =
    finished ++ worker.uncounted.map Ticketed.ticket

namespace Delivery

variable {ρ : Type} {delivered written : List (Ticketed ρ)}
  {finished : List Nat} {worker next : Worker ρ}

/-- The worker moves on without touching a record. -/
theorem move (delivery : Delivery delivered written finished worker)
    (unwritten : next.unwritten = worker.unwritten)
    (uncounted : next.uncounted = worker.uncounted) :
    Delivery delivered written finished next where
  written_eq := by rw [unwritten]; exact delivery.written_eq
  finished_eq := by rw [uncounted]; exact delivery.finished_eq

theorem tickets_eq (delivery : Delivery delivered written finished worker) :
    delivered.map Ticketed.ticket =
      finished ++ (worker.uncounted ++ worker.unwritten).map
        Ticketed.ticket := by
  rw [delivery.written_eq, List.map_append, delivery.finished_eq,
    List.map_append, List.append_assoc]

theorem length_eq (delivery : Delivery delivered written finished worker) :
    delivered.length =
      finished.length + worker.uncounted.length + worker.unwritten.length := by
  have lengths := congrArg List.length delivery.tickets_eq
  simp only [List.length_map, List.length_append] at lengths
  omega

end Delivery

namespace AsyncBackend

variable {ι κ ρ ε φ : Type} [DecidableEq ι] [DecidableEq κ]

/-- The records handed to the formatter and the sinks, in order. -/
def written (backend : AsyncBackend ι κ ρ ε) : List (Ticketed ρ) :=
  backend.calls.filterMap SinkCall.entry?

structure Accounts (backend : AsyncBackend ι κ ρ ε) : Prop where
  sound : backend.custody.Sound
  submission : Submission backend.custody.ledger.accepted.length
    backend.counted backend.producers
  delivery : Delivery backend.custody.ledger.delivered backend.written
    backend.finished backend.worker
  processed_eq : backend.mProcessed = UInt64.ofNat backend.finished.length
  submitted_eq : backend.mSubmitted = UInt64.ofNat backend.counted.length
  comparing : ∀ processed, backend.worker = .comparing processed →
    processed = backend.mProcessed

namespace Accounts

variable {before after backend : AsyncBackend ι κ ρ ε}
  {emitter : Emitter ρ ε φ} {label : AsyncLabel ι κ ρ φ}

omit [DecidableEq ι] [DecidableEq κ] in
/-- The worker moves on without touching a record. -/
theorem move (accounts : before.Accounts) {next : Worker ρ}
    (unwritten : next.unwritten = before.worker.unwritten)
    (uncounted : next.uncounted = before.worker.uncounted)
    (notComparing : ∀ processed, next ≠ .comparing processed) :
    ({ before with worker := next } : AsyncBackend ι κ ρ ε).Accounts :=
  ⟨accounts.sound, accounts.submission,
    accounts.delivery.move unwritten uncounted, accounts.processed_eq,
    accounts.submitted_eq, fun processed same =>
      absurd same (notComparing processed)⟩

omit [DecidableEq κ] in
theorem logAccepted (accounts : before.Accounts) {producer : ι} {record : ρ}
    {custody : Custody ρ} (outside : before.producers producer = .outside)
    (accepted : before.custody.Accepted record custody) :
    ({ before with
      custody := custody
      producers := Function.update before.producers producer
        (.submitting (before.custody.ledger.stamp record).ticket) } :
      AsyncBackend ι κ ρ ε).Accounts := by
  have grown : custody.ledger.accepted.length =
      before.custody.ledger.accepted.length + 1 := by
    simp [accepted.ledger, Ledger.accept]
  have delivered : custody.ledger.delivered =
      before.custody.ledger.delivered := by
    simp [accepted.ledger, Ledger.accept]
  refine ⟨accepted.sound, ?_, ?_, accounts.processed_eq,
    accounts.submitted_eq, accounts.comparing⟩
  · dsimp only
    rw [grown]
    exact accounts.submission.push outside
  · dsimp only
    rw [delivered]
    exact accounts.delivery

omit [DecidableEq ι] [DecidableEq κ] in
theorem workerPop (accounts : before.Accounts) {loop : Loop}
    {entry : Ticketed ρ} {custody : Custody ρ}
    (popping : before.worker = .popping loop)
    (delivered : before.custody.Delivered entry custody) :
    ({ before with custody := custody, worker := .writing loop entry } :
      AsyncBackend ι κ ρ ε).Accounts := by
  have accepted : custody.ledger.accepted =
      before.custody.ledger.accepted := by
    simp [delivered.ledger, Ledger.deliver]
  have grown : custody.ledger.delivered =
      before.custody.ledger.delivered ++ [entry] := by
    simp [delivered.ledger, Ledger.deliver]
  obtain ⟨writtenEq, finishedEq⟩ := accounts.delivery
  refine ⟨delivered.sound, ?_, ⟨?_, ?_⟩, accounts.processed_eq,
    accounts.submitted_eq, by simp⟩
  · dsimp only
    rw [accepted]
    exact accounts.submission
  · dsimp only
    rw [grown, writtenEq, popping]
    simp [Worker.unwritten, written]
  · rw [popping] at finishedEq
    exact finishedEq

omit [DecidableEq ι] [DecidableEq κ] in
theorem workerWrite (accounts : before.Accounts) {loop : Loop}
    {entry : Ticketed ρ} (output : ε)
    (writing : before.worker = .writing loop entry) :
    ({ before with
      output := output
      calls := before.calls ++ [.write entry]
      worker := .counting loop entry } :
      AsyncBackend ι κ ρ ε).Accounts := by
  obtain ⟨writtenEq, finishedEq⟩ := accounts.delivery
  rw [writing] at writtenEq finishedEq
  refine ⟨accounts.sound, accounts.submission, ⟨?_, ?_⟩,
    accounts.processed_eq, accounts.submitted_eq, by simp⟩
  · simpa [written, Worker.unwritten, SinkCall.entry?] using writtenEq
  · have counted : before.written.map Ticketed.ticket = before.finished := by
      simpa [Worker.uncounted] using finishedEq
    simp only [written, List.filterMap_append, List.map_append]
    exact congrArg (· ++ [entry.ticket]) counted

omit [DecidableEq ι] [DecidableEq κ] in
theorem workerCount (accounts : before.Accounts) {loop : Loop}
    {entry : Ticketed ρ} {next : Worker ρ}
    (counting : before.worker = .counting loop entry)
    (unwritten : next.unwritten = []) (uncounted : next.uncounted = [])
    (comparing : ∀ processed, next = .comparing processed →
      processed = before.mProcessed + 1) :
    ({ before with
      mProcessed := before.mProcessed + 1
      finished := before.finished ++ [entry.ticket]
      worker := next } : AsyncBackend ι κ ρ ε).Accounts := by
  obtain ⟨writtenEq, finishedEq⟩ := accounts.delivery
  rw [counting] at writtenEq finishedEq
  refine ⟨accounts.sound, accounts.submission, ⟨?_, ?_⟩, ?_,
    accounts.submitted_eq, comparing⟩
  · dsimp only
    rw [unwritten]
    exact writtenEq
  · dsimp only
    rw [uncounted]
    simpa [Worker.uncounted, written] using finishedEq
  · simp [accounts.processed_eq, UInt64.ofNat_add]

omit [DecidableEq κ] [DecidableEq ι] in
theorem start [Inhabited ρ] {capacity : Nat} (policy : OverflowPolicy)
    (positive : 0 < capacity) (output : ε) :
    (AsyncBackend.make capacity policy output :
      AsyncBackend ι κ ρ ε).Accounts where
  sound := .make policy positive
  submission := .start
  delivery := ⟨rfl, rfl⟩
  processed_eq := rfl
  submitted_eq := rfl
  comparing := by simp [AsyncBackend.make]

theorem step (accounts : before.Accounts)
    (stepped : AsyncStep emitter before label after) : after.Accounts := by
  cases stepped with
  | logAccepted outside pushed =>
      exact accounts.logAccepted outside (accounts.sound.accepted pushed)
  | logRefused outside pushed =>
      obtain ⟨_, rfl⟩ := accounts.sound.refused pushed
      exact accounts
  | logCount submitting =>
      refine ⟨accounts.sound, accounts.submission.count submitting,
        accounts.delivery, accounts.processed_eq, ?_, accounts.comparing⟩
      simp [accounts.submitted_eq, UInt64.ofNat_add]
  | workerCheck checking =>
      exact accounts.move (by simp [checking, Worker.unwritten])
        (by simp [checking, Worker.uncounted]) (by simp)
  | workerPop popping popped =>
      exact accounts.workerPop popping (accounts.sound.delivered popped)
  | workerMiss popping popped | workerDrained popping popped =>
      obtain ⟨_, _, rfl⟩ := accounts.sound.ended popped
      exact accounts.move (by simp [popping, Worker.unwritten])
        (by simp [popping, Worker.uncounted]) (by simp)
  | workerWrite fault writing => exact accounts.workerWrite _ writing
  | workerServed counting =>
      exact accounts.workerCount counting rfl rfl fun processed same => by
        simpa using same.symm
  | workerDraining counting =>
      exact accounts.workerCount counting rfl rfl (by simp)
  | workerEqual comparing | workerUnequal comparing unequal =>
      exact accounts.move (by simp [comparing, Worker.unwritten])
        (by simp [comparing, Worker.uncounted]) (by simp)
  | workerNotify notifying unlocked =>
      exact ⟨accounts.sound, accounts.submission,
        accounts.delivery.move (by simp [notifying, Worker.unwritten])
          (by simp [notifying, Worker.uncounted]),
        accounts.processed_eq, accounts.submitted_eq, by simp⟩
  | workerFlush flushing =>
      have delivery : Delivery before.custody.ledger.delivered
          before.written before.finished .returned :=
        accounts.delivery.move (by simp [flushing, Worker.unwritten])
          (by simp [flushing, Worker.uncounted])
      refine ⟨accounts.sound, accounts.submission, ?_,
        accounts.processed_eq, accounts.submitted_eq, by simp⟩
      simpa [written, List.filterMap_cons, SinkCall.entry?] using delivery
  | flushReturn passed =>
      refine ⟨accounts.sound, accounts.submission, ?_,
        accounts.processed_eq, accounts.submitted_eq, accounts.comparing⟩
      simpa [written, List.filterMap_cons, SinkCall.entry?, placeFlusher]
        using accounts.delivery
  | stopShutdown shuttingDown =>
      exact ⟨accounts.sound.shutdown, accounts.submission,
        accounts.delivery, accounts.processed_eq, accounts.submitted_eq,
        accounts.comparing⟩
  | flushEnter | flushLock | flushLoadProcessed | flushLoadSubmitted
  | flushPass | flushSleep | flushSpurious | stopBegin | stopAgain
  | stopJoin =>
      exact ⟨accounts.sound, accounts.submission, accounts.delivery,
        accounts.processed_eq, accounts.submitted_eq, accounts.comparing⟩

section Reachable

variable [Inhabited ρ] {capacity : Nat} {policy : OverflowPolicy}
  {output : ε}

theorem preserved (admits : AsyncBackend ι κ ρ ε → AsyncLabel ι κ ρ φ →
    Prop) :
    (asyncMachine ι κ emitter capacity policy output).Preserves admits
      Accounts :=
  fun _ _ _ stepped _ accounts => accounts.step (.of_step stepped)

theorem of_reachable (positive : 0 < capacity)
    (reachable : (asyncMachine ι κ emitter capacity policy output).Reachable
      backend) : backend.Accounts :=
  reachable.invariant (preserved _) (.start policy positive output)

end Reachable

omit [DecidableEq ι] [DecidableEq κ] in
/-- The conservation law: what was submitted is processed, in the worker's
hands, in the queue or evicted. -/
theorem conservation (accounts : backend.Accounts) :
    backend.finished.length + backend.worker.uncounted.length +
        backend.worker.unwritten.length +
        backend.custody.queue.contents.length +
        backend.custody.ledger.evicted.length =
      backend.custody.ledger.accepted.length := by
  have balance := accounts.sound.balanced.length_eq
  rw [accounts.delivery.length_eq] at balance
  omega

end Accounts

/-- Nothing is under way: the queue is empty, no producer is inside `log` and
the worker waits in `pop`. -/
structure Quiescent (backend : AsyncBackend ι κ ρ ε) : Prop where
  unstopped : backend.stopper = .outside
  outside : ∀ producer, backend.producers producer = .outside
  empty : backend.custody.queue.contents = []
  waiting : backend.worker = .popping .serving

/-- At rest the two counters are equal exactly when the number of evicted
records is a multiple of what a counter can hold, as zero is. -/
theorem counters_equal_iff [Inhabited ρ] {capacity : Nat}
    (positive : 0 < capacity) {policy : OverflowPolicy}
    {emitter : Emitter ρ ε φ} {output : ε} {backend : AsyncBackend ι κ ρ ε}
    (reachable : (asyncMachine ι κ emitter capacity policy output).Reachable
      backend) (quiescent : backend.Quiescent) :
    backend.mProcessed = backend.mSubmitted ↔
      2 ^ 64 ∣ backend.custody.ledger.evicted.length := by
  have accounts := Accounts.of_reachable positive reachable
  have balance := accounts.conservation
  have submitted := accounts.submission.length_eq quiescent.outside
  simp only [quiescent.waiting, quiescent.empty, Worker.uncounted,
    Worker.unwritten, List.length_nil] at balance
  rw [accounts.processed_eq, accounts.submitted_eq, submitted, ← balance,
    ← UInt64.toNat_inj, UInt64.toNat_ofNat', UInt64.toNat_ofNat']
  omega

theorem counters_equal_iff_no_eviction :
    ∃ backend : AsyncBackend Unit Unit Nat Unit,
      (asyncMachine Unit Unit Emitter.silent 1 .block ()).Reachable
        backend ∧
      backend.Quiescent ∧ backend.finished = [0] ∧
      backend.mProcessed = backend.mSubmitted := by
  have run := Machine.run_of_exec
    (asyncMachine Unit Unit (Emitter.silent (ρ := Nat)) 1 .block ())
    Machine.Free (.make 1 .block ())
    [.logPush () 7, .logCount (), .workerCheck, .workerPop, .workerWrite (),
      .workerCount, .workerCompare, .workerNotify, .workerCheck] rfl
  exact ⟨_, ⟨_, run⟩, ⟨rfl, fun _ => rfl, rfl, rfl⟩, rfl,
    (counters_equal_iff (by decide) ⟨_, run⟩
      ⟨rfl, fun _ => rfl, rfl, rfl⟩).mpr (by decide)⟩

/-- The second record replaces the first, which was already submitted. -/
theorem counters_differ_after_eviction :
    ∃ backend : AsyncBackend Unit Unit Nat Unit,
      (asyncMachine Unit Unit Emitter.silent 1 .dropOldest ()).Reachable
        backend ∧
      backend.Quiescent ∧ backend.mProcessed = 1 ∧
      backend.mSubmitted = 2 ∧ backend.mProcessed ≠ backend.mSubmitted := by
  have run := Machine.run_of_exec
    (asyncMachine Unit Unit (Emitter.silent (ρ := Nat)) 1 .dropOldest ())
    Machine.Free (.make 1 .dropOldest ())
    [.logPush () 7, .logCount (), .logPush () 8, .logCount (), .workerCheck,
      .workerPop, .workerWrite (), .workerCount, .workerCompare,
      .workerCheck] rfl
  exact ⟨_, ⟨_, run⟩, ⟨rfl, fun _ => rfl, rfl, rfl⟩, rfl, rfl, by decide⟩

end AsyncBackend

end LogParse
