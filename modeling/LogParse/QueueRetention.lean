import LogParse.AsyncShutdown

/-!
# What a full queue gives up

Only `DropOldest` evicts, and only the oldest record of a full queue.  So the
queue always holds the newest records it took in, and a record is not evicted
before the queue has taken in as many newer ones as it has slots.  The records
in the queue can be counted from outside.
-/

namespace LogParse

namespace Queue

variable {ρ : Type}

def empty (queue : Queue ρ) : Bool := queue.mSize = 0

def full (queue : Queue ρ) : Bool := queue.mSize = queue.mCapacity

def size (queue : Queue ρ) : Nat := queue.mSize

def capacity (queue : Queue ρ) : Nat := queue.mCapacity

end Queue

section Runs

variable {ρ : Type} {before after custody : Custody ρ} {capacity : Nat}
  {policy : OverflowPolicy}

/-- The queue holds the newest of the accepted records, and what it has
evicted is older than a whole queue of them. -/
structure KeepsNewest (capacity : Nat) (custody : Custody ρ) : Prop where
  sound : custody.Sound
  capacity_eq : custody.queue.mCapacity = capacity
  newest : custody.queue.contents <:+ custody.ledger.accepted
  older : ∀ ticket ∈ custody.ledger.evicted,
    ticket + capacity < custody.ledger.accepted.length

/-- The oldest record of a queue is as old as the queue is long. -/
theorem KeepsNewest.head (keeps : KeepsNewest capacity custody)
    {oldest : Ticketed ρ}
    (isHead : custody.queue.contents.head? = some oldest) :
    oldest.ticket + custody.queue.mSize =
      custody.ledger.accepted.length := by
  obtain ⟨earlier, split⟩ := keeps.newest
  have place : custody.ledger.accepted[earlier.length]? = some oldest := by
    rw [← split, List.getElem?_append_right (Nat.le_refl _), Nat.sub_self,
      ← List.head?_eq_getElem?]
    exact isHead
  rw [keeps.sound.balanced.ticket_eq place, ← split, List.length_append,
    keeps.sound.formed.length_contents]

theorem KeepsNewest.kept_suffix (keeps : KeepsNewest capacity custody) :
    custody.queue.kept <:+ custody.ledger.accepted := by
  refine List.IsSuffix.trans ?_ keeps.newest
  rw [keeps.sound.formed.kept_eq]
  split
  · exact List.tail_suffix _
  · exact List.suffix_refl _

theorem KeepsNewest.push (keeps : KeepsNewest capacity before) {record : ρ}
    (accepted : before.Accepted record after) :
    KeepsNewest capacity after := by
  refine ⟨accepted.sound,
    accepted.shape.capacity.trans keeps.capacity_eq, ?_, ?_⟩
  · obtain ⟨earlier, split⟩ := keeps.kept_suffix
    refine ⟨earlier, ?_⟩
    rw [accepted.contents, accepted.ledger, Ledger.accept,
      Custody.evictOldest_accepted, ← List.append_assoc, split]
    simp [Ledger.stamp]
  · intro ticket evicted
    rw [accepted.ledger] at evicted ⊢
    simp only [Ledger.accept, Custody.evictOldest_accepted,
      List.length_append, List.length_singleton] at evicted ⊢
    unfold Custody.evictOldest at evicted
    cases evicts : before.queue.evicts with
    | none =>
        rw [evicts] at evicted
        have old := keeps.older ticket evicted
        omega
    | some lost =>
        rw [evicts] at evicted
        obtain ⟨isHead, full⟩ : before.queue.contents.head? = some lost ∧
            before.queue.mSize = before.queue.mCapacity := by
          unfold Queue.evicts at evicts
          split at evicts
          · split at evicts
            · exact ⟨evicts, ‹_›⟩
            · cases evicts
          · cases evicts
          · cases evicts
          · cases evicts
        rcases List.mem_append.mp evicted with earlier | here
        · have old := keeps.older ticket earlier
          omega
        · obtain rfl := List.mem_singleton.mp here
          have place := keeps.head isHead
          have capacityEq := keeps.capacity_eq
          omega

theorem KeepsNewest.pop (keeps : KeepsNewest capacity before)
    {front : Ticketed ρ} (delivered : before.Delivered front after) :
    KeepsNewest capacity after := by
  refine ⟨delivered.sound,
    delivered.shape.capacity.trans keeps.capacity_eq, ?_, ?_⟩
  · rw [delivered.ledger, Ledger.deliver]
    refine List.IsSuffix.trans ?_ keeps.newest
    rw [delivered.contents]
    exact List.suffix_cons _ _
  · rw [delivered.ledger]
    exact keeps.older

variable [Inhabited ρ]

theorem KeepsNewest.preserved :
    (queueMachine (ρ := ρ) capacity policy).Preserves Machine.Free
      (KeepsNewest capacity) := by
  intro before op after stepped _ keeps
  rcases queueMachine_step_cases keeps.sound stepped with
    ⟨_, _, accepted⟩ | ⟨_, _, _, rfl⟩ | ⟨_, _, delivered⟩ |
      ⟨_, _, _, rfl⟩ | ⟨_, rfl⟩
  · exact keeps.push accepted
  · exact keeps
  · exact keeps.pop delivered
  · exact keeps
  · exact ⟨keeps.sound.shutdown, keeps.capacity_eq, keeps.newest,
      keeps.older⟩

theorem KeepsNewest.reachable (positive : 0 < capacity)
    (reachable : (queueMachine capacity policy).Reachable custody) :
    KeepsNewest capacity custody :=
  reachable.invariant KeepsNewest.preserved
    ⟨.make policy positive, rfl, List.suffix_refl _, by
      simp [queueMachine, Custody.make]⟩

omit [Inhabited ρ] in
/-- The newest records, as many as the queue has slots, are delivered or
waiting, whatever was evicted before them. -/
theorem KeepsNewest.drop_suffix (keeps : KeepsNewest capacity custody) :
    custody.ledger.accepted.drop
        (custody.ledger.accepted.length - capacity) <:+
      custody.ledger.delivered ++ custody.queue.contents := by
  apply keeps.sound.balanced.drop_suffix
  intro ticket evicted
  have old := keeps.older ticket evicted
  omega

/-- In every state, under every policy, the queue holds the newest records it
has accepted, a record was evicted only after as many newer ones were accepted
as the queue has slots, and what the accessors report is what was accepted and
neither delivered nor evicted. -/
theorem newest_kept (positive : 0 < capacity)
    (reachable : (queueMachine capacity policy).Reachable custody) :
    custody.queue.contents <:+ custody.ledger.accepted ∧
    (∀ ticket ∈ custody.ledger.evicted,
      ticket + capacity < custody.ledger.accepted.length) ∧
    custody.ledger.accepted.drop
        (custody.ledger.accepted.length - capacity) <:+
      custody.ledger.delivered ++ custody.queue.contents ∧
    custody.ledger.delivered.length + custody.ledger.evicted.length +
        custody.queue.size = custody.ledger.accepted.length ∧
    (custody.queue.empty = true ↔
      custody.ledger.delivered = custody.ledger.survivors) ∧
    (custody.queue.full = true ↔
      custody.queue.contents.length = custody.queue.capacity) := by
  have keeps := KeepsNewest.reachable positive reachable
  have balanced := keeps.sound.balanced
  have length := keeps.sound.formed.length_contents
  refine ⟨keeps.newest, keeps.older, keeps.drop_suffix, ?_, ?_, ?_⟩
  · have conserved := balanced.length_eq
    simp only [Queue.size]
    omega
  · rw [← balanced.order, Queue.empty, decide_eq_true_eq,
      ← keeps.sound.formed.contents_eq_nil_iff]
    constructor
    · intro nothing
      rw [nothing, List.append_nil]
    · intro same
      exact List.append_right_eq_self.mp same.symm
  · simp [Queue.full, Queue.capacity, length]

/-- Two of five records are evicted, and one was popped before. -/
theorem newest_kept_evicting :
    ∃ custody : Custody Nat, (queueMachine 2 .dropOldest).Reachable custody ∧
      custody.ledger.evicted = [1, 2] ∧ custody.queue.full = true ∧
      custody.ledger.accepted.drop
          (custody.ledger.accepted.length - 2) <:+
        custody.ledger.delivered ++ custody.queue.contents := by
  have run := Machine.run_of_exec (queueMachine (ρ := Nat) 2 .dropOldest)
    Machine.Free (queueMachine 2 .dropOldest).start
    [.push 5, .pop, .push 6, .push 7, .push 8, .push 9] rfl
  exact ⟨_, ⟨_, run⟩, rfl, rfl, (newest_kept (by decide) ⟨_, run⟩).2.2.1⟩

end Runs

namespace AsyncBackend

variable {ι κ ρ ε φ : Type} [DecidableEq ι] [DecidableEq κ] [Inhabited ρ]
  {emitter : Emitter ρ ε φ} {capacity : Nat} {policy : OverflowPolicy}
  {output : ε} {backend : AsyncBackend ι κ ρ ε}

/-- Whatever the threads around it do, the backend's queue only goes through
states of a queue on its own. -/
theorem custody_reachable
    (reachable : (asyncMachine ι κ emitter capacity policy
      output).Reachable backend) :
    (queueMachine capacity policy).Reachable backend.custody := by
  have simulates : (asyncMachine ι κ emitter capacity policy
      output).Simulates Machine.Free (fun _ => True)
        (queueMachine capacity policy) Machine.Free AsyncBackend.custody := by
    intro before label after stepped _ _
    cases AsyncStep.of_step stepped with
    | @logAccepted _ record _ _ pushed | @logRefused _ record _ _ pushed =>
        exact ⟨[.push record], .single trivial (by simp [queueMachine, pushed])⟩
    | workerPop popping popped | workerMiss popping popped
    | workerDrained popping popped =>
        exact ⟨[.pop], .single trivial (by simp [queueMachine, popped])⟩
    | stopShutdown shuttingDown => exact ⟨[.shutdown], .single trivial rfl⟩
    | _ => exact ⟨[], .nil⟩
  obtain ⟨labels, run⟩ := reachable
  exact run.simulate simulates (fun _ _ _ _ _ _ => trivial) trivial

/-- Whatever was evicted, when the worker has returned it has written the
newest records last, as many of them as the queue has slots. -/
theorem newest_written (positive : 0 < capacity)
    {labels : List (AsyncLabel ι κ ρ φ)}
    (run : (asyncMachine ι κ emitter capacity policy output).Run Orderly
      (.make capacity policy output) labels backend)
    (returned : backend.worker = .returned) :
    backend.custody.ledger.accepted.drop
        (backend.custody.ledger.accepted.length - capacity) <:+
      backend.written := by
  have draining :=
    run.invariant Draining.preserved (Draining.start policy positive output)
  obtain ⟨writtenEq, empty, _⟩ := draining.returned returned
  have reachable : (queueMachine capacity policy).Reachable
      backend.custody := custody_reachable ⟨_, run.free⟩
  have newest := (KeepsNewest.reachable positive reachable).drop_suffix
  rw [draining.accounts.sound.balanced.order, ← writtenEq] at newest
  exact newest

theorem newest_written_evicting :
    ∃ backend : AsyncBackend Unit Unit Nat Unit,
      (asyncMachine Unit Unit Emitter.silent 1 .dropOldest ()).Reachable
        backend ∧
      backend.custody.ledger.evicted = [0] ∧ backend.worker = .returned ∧
      backend.custody.ledger.accepted.drop
          (backend.custody.ledger.accepted.length - 1) <:+
        backend.written := by
  obtain ⟨backend, run, evicted, returned⟩ := Machine.exists_run
    (asyncMachine Unit Unit (Emitter.silent (ρ := Nat)) 1 .dropOldest ())
    Orderly (.make 1 .dropOldest ())
    [.logPush () 7, .logCount (), .logPush () 8, .logCount (), .stopBegin,
      .stopShutdown, .workerCheck, .workerPop, .workerWrite (), .workerCount,
      .workerPop, .workerFlush, .stopJoin]
    (fun backend => backend.custody.ledger.evicted = [0] ∧
      backend.worker = .returned) (by decide)
  exact ⟨backend, ⟨_, run.free⟩, evicted, returned,
    newest_written (by decide) run returned⟩

end AsyncBackend

end LogParse
