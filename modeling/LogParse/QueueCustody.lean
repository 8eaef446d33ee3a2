import LogParse.Library.Ledger
import LogParse.Library.Machine
import LogParse.Queue

/-!
# The queue refines a first-in first-out list

The queue is run together with a ledger of the records it took in, handed out
and evicted.  The ledger numbers the records, and the queue moves the numbered
records; it cannot tell them from plain ones (`Custody.plain_push`,
`Custody.plain_pop`).
-/

namespace LogParse

/-- `m_queue` with the history of what passed through it. -/
structure Custody (ρ : Type) where
  queue : Queue (Ticketed ρ)
  ledger : Ledger ρ := {}
  deriving DecidableEq, Repr

namespace Custody

variable {ρ : Type}

def make [Inhabited ρ] (capacity : Nat) (policy : OverflowPolicy) :
    Custody ρ :=
  { queue := Queue.make capacity policy }

/-- The ledger once the record that the next `push` replaces is written
off. -/
def evictOldest (custody : Custody ρ) : Ledger ρ :=
  match custody.queue.evicts with
  | some lost => custody.ledger.evict lost
  | none => custody.ledger

/-- One completed `push`.  It is not enabled while the caller waits. -/
def push (custody : Custody ρ) (record : ρ) : Option (Bool × Custody ρ) :=
  if custody.queue.pushReady then
    match custody.queue.push (custody.ledger.stamp record) with
    | .ok (true, queue) =>
        some (true,
          { queue := queue, ledger := custody.evictOldest.accept record })
    | .ok (false, queue) => some (false, { custody with queue := queue })
    | .error _ => none
  else none

/-- One completed `pop`.  It is not enabled while the consumer waits. -/
def pop (custody : Custody ρ) : Option (Option (Ticketed ρ) × Custody ρ) :=
  if custody.queue.popReady then
    match custody.queue.pop with
    | .ok (some front, queue) =>
        some (some front,
          { queue := queue, ledger := custody.ledger.deliver front })
    | .ok (none, queue) => some (none, { custody with queue := queue })
    | .error _ => none
  else none

def shutdown (custody : Custody ρ) : Custody ρ :=
  { custody with queue := custody.queue.shutdown }

@[simp] theorem shutdown_contents (custody : Custody ρ) :
    custody.shutdown.queue.contents = custody.queue.contents := rfl

@[simp] theorem evictOldest_accepted (custody : Custody ρ) :
    custody.evictOldest.accepted = custody.ledger.accepted := by
  unfold evictOldest
  cases custody.queue.evicts <;> rfl

@[simp] theorem evictOldest_delivered (custody : Custody ρ) :
    custody.evictOldest.delivered = custody.ledger.delivered := by
  unfold evictOldest
  cases custody.queue.evicts <;> rfl

theorem evictOldest_evicted (custody : Custody ρ) :
    custody.ledger.evicted ⊆ custody.evictOldest.evicted := by
  unfold evictOldest
  cases custody.queue.evicts with
  | none => exact List.Subset.refl _
  | some lost => exact List.subset_append_left _ _

structure Sound (custody : Custody ρ) : Prop where
  formed : custody.queue.WellFormed
  balanced : custody.ledger.Balanced custody.queue.contents

/-- What an accepting `push` leaves behind. -/
structure Accepted (before : Custody ρ) (record : ρ) (after : Custody ρ) :
    Prop where
  accepts : before.queue.accepts = true
  sound : after.Sound
  shape : before.queue.SameShape after.queue
  shutdown_eq : after.queue.mShutdown = before.queue.mShutdown
  contents : after.queue.contents =
    before.queue.kept ++ [before.ledger.stamp record]
  ledger : after.ledger = before.evictOldest.accept record

/-- What a `pop` that yields a record leaves behind. -/
structure Delivered (before : Custody ρ) (front : Ticketed ρ)
    (after : Custody ρ) : Prop where
  sound : after.Sound
  shape : before.queue.SameShape after.queue
  shutdown_eq : after.queue.mShutdown = before.queue.mShutdown
  contents : before.queue.contents = front :: after.queue.contents
  ledger : after.ledger = before.ledger.deliver front

/-- The queue as the program has it, without the numbers. -/
def plain (custody : Custody ρ) : Queue ρ :=
  custody.queue.map Ticketed.item

theorem plain_make [Inhabited ρ] (capacity : Nat) (policy : OverflowPolicy) :
    (make capacity policy : Custody ρ).plain = Queue.make capacity policy :=
  Queue.map_make Ticketed.item rfl capacity policy

theorem plain_push {before after : Custody ρ} {record : ρ} {result : Bool}
    (pushed : before.push record = some (result, after)) :
    before.plain.push record = .ok (result, after.plain) := by
  have moved := Queue.map_push Ticketed.item before.queue
    (before.ledger.stamp record)
  simp only [push] at pushed
  split at pushed
  · cases returned : before.queue.push (before.ledger.stamp record) with
    | error fault => simp [returned] at pushed
    | ok outcome =>
        obtain ⟨accepted, queue⟩ := outcome
        rw [returned] at moved
        cases accepted <;>
          · simp only [returned, Option.some.injEq, Prod.mk.injEq] at pushed
            obtain ⟨rfl, rfl⟩ := pushed
            exact moved
  · simp at pushed

theorem plain_pop {before after : Custody ρ}
    {result : Option (Ticketed ρ)}
    (popped : before.pop = some (result, after)) :
    before.plain.pop = .ok (result.map Ticketed.item, after.plain) := by
  have moved := Queue.map_pop Ticketed.item before.queue
  simp only [pop] at popped
  split at popped
  · cases returned : before.queue.pop with
    | error fault => simp [returned] at popped
    | ok outcome =>
        obtain ⟨front, queue⟩ := outcome
        rw [returned] at moved
        cases front <;>
          · simp only [returned, Option.some.injEq, Prod.mk.injEq] at popped
            obtain ⟨rfl, rfl⟩ := popped
            exact moved
  · simp at popped

/-- An empty queue yields nothing, and that only after `shutdown`. -/
theorem pop_empty {custody after : Custody ρ}
    {result : Option (Ticketed ρ)} (empty : custody.queue.mSize = 0)
    (popped : custody.pop = some (result, after)) :
    result = none ∧ after = custody ∧ custody.queue.mShutdown = true := by
  unfold pop at popped
  split at popped
  · rename_i ready
    have closed : custody.queue.mShutdown = true := by
      simpa [Queue.popReady, empty] using ready
    have nothing : custody.queue.pop = .ok (none, custody.queue) := by
      simp [Queue.pop, empty, pure, Except.pure]
    rw [nothing] at popped
    obtain ⟨rfl, rfl⟩ := Prod.mk.inj (Option.some.inj popped)
    exact ⟨rfl, rfl, closed⟩
  · simp at popped

theorem pop_closed {custody : Custody ρ}
    (empty : custody.queue.mSize = 0)
    (closed : custody.queue.mShutdown = true) :
    custody.pop = some (none, custody) := by
  simp [pop, Queue.popReady, Queue.pop, empty, closed, pure,
    Except.pure]

namespace Sound

variable {custody : Custody ρ}

theorem make [Inhabited ρ] {capacity : Nat} (policy : OverflowPolicy)
    (positive : 0 < capacity) :
    (Custody.make capacity policy : Custody ρ).Sound :=
  ⟨.make policy positive, .empty⟩

theorem shutdown (sound : custody.Sound) : custody.shutdown.Sound :=
  ⟨sound.formed.shutdown, sound.balanced⟩

theorem evictOldest (sound : custody.Sound) :
    custody.evictOldest.Balanced custody.queue.kept := by
  have balanced := sound.balanced
  rw [← Queue.WellFormed.evicts_append_kept] at balanced
  unfold Custody.evictOldest
  cases evicts : custody.queue.evicts with
  | none => simpa [evicts] using balanced
  | some lost =>
      rw [evicts] at balanced
      exact Ledger.Balanced.evict balanced

/-- The step lemma of `push`: it is never stuck once the wait is over, and it
accepts or refuses. -/
theorem push_spec (sound : custody.Sound)
    (ready : custody.queue.pushReady = true) (record : ρ) :
    (custody.queue.accepts = true ∧
        ∃ after, custody.push record = some (true, after) ∧
          custody.Accepted record after) ∨
      (custody.queue.accepts = false ∧
        custody.push record = some (false, custody)) := by
  obtain ⟨queue, pushed⟩ :=
    sound.formed.push_spec ready (custody.ledger.stamp record)
  cases accepts : custody.queue.accepts with
  | true =>
      refine Or.inl ⟨rfl, ⟨queue, custody.evictOldest.accept record⟩, ?_, ?_⟩
      · simp [push, ready, pushed.result, accepts]
      · have contents := pushed.appended accepts
        have stamps : custody.evictOldest.stamp record =
            custody.ledger.stamp record := by
          simp [Ledger.stamp]
        refine ⟨accepts, ⟨pushed.formed, ?_⟩, pushed.shape,
          pushed.shutdown_eq, contents, rfl⟩
        rw [contents, ← stamps]
        exact sound.evictOldest.accept record
  | false =>
      have unchanged := pushed.refused accepts
      subst queue
      exact Or.inr ⟨rfl, by simp [push, ready, pushed.result, accepts]⟩

theorem push_cases (sound : custody.Sound) {record : ρ} {result : Bool}
    {after : Custody ρ} (pushed : custody.push record = some (result, after)) :
    (result = true ∧ custody.Accepted record after) ∨
      (result = false ∧ custody.queue.accepts = false ∧ after = custody) := by
  have ready : custody.queue.pushReady = true := by
    by_contra waiting
    simp [push, waiting] at pushed
  rcases sound.push_spec ready record with
    ⟨_, after', returned, accepted⟩ | ⟨refuses, returned⟩
  · rw [returned] at pushed
    obtain ⟨rfl, rfl⟩ : true = result ∧ after' = after := by
      simpa using pushed
    exact Or.inl ⟨rfl, accepted⟩
  · rw [returned] at pushed
    obtain ⟨rfl, rfl⟩ : false = result ∧ custody = after := by
      simpa using pushed
    exact Or.inr ⟨rfl, refuses, rfl⟩

theorem accepted (sound : custody.Sound) {record : ρ} {after : Custody ρ}
    (pushed : custody.push record = some (true, after)) :
    custody.Accepted record after := by
  rcases sound.push_cases pushed with ⟨_, accepted⟩ | ⟨impossible, _⟩
  · exact accepted
  · simp at impossible

theorem refused (sound : custody.Sound) {record : ρ} {after : Custody ρ}
    (pushed : custody.push record = some (false, after)) :
    custody.queue.accepts = false ∧ after = custody := by
  rcases sound.push_cases pushed with ⟨impossible, _⟩ | ⟨_, refused⟩
  · simp at impossible
  · exact refused

/-- The step lemma of `pop`. -/
theorem pop_spec (sound : custody.Sound)
    (ready : custody.queue.popReady = true) :
    (∃ front after, custody.pop = some (some front, after) ∧
        custody.Delivered front after) ∨
      (custody.queue.contents = [] ∧ custody.queue.mShutdown = true ∧
        custody.pop = some (none, custody)) := by
  cases contents : custody.queue.contents with
  | nil =>
      have sizeZero := sound.formed.contents_eq_nil_iff.mp contents
      have stopped : custody.queue.mShutdown = true := by
        simpa [Queue.popReady, sizeZero] using ready
      exact Or.inr ⟨rfl, stopped, by
        simp [pop, ready, sound.formed.pop_empty contents]⟩
  | cons front rest =>
      obtain ⟨queue, popped, formed, shape, shutdownSame, restEq⟩ :=
        sound.formed.pop_cons contents
      have balanced := sound.balanced
      rw [contents] at balanced
      refine Or.inl ⟨front, ⟨queue, custody.ledger.deliver front⟩, ?_, ?_⟩
      · simp [pop, ready, popped]
      · refine ⟨⟨formed, ?_⟩, shape, shutdownSame, ?_, rfl⟩
        · rw [restEq]
          exact balanced.deliver
        · rw [contents, restEq]

theorem pop_cases (sound : custody.Sound) {result : Option (Ticketed ρ)}
    {after : Custody ρ} (popped : custody.pop = some (result, after)) :
    (∃ front, result = some front ∧ custody.Delivered front after) ∨
      (result = none ∧ custody.queue.contents = [] ∧
        custody.queue.mShutdown = true ∧ after = custody) := by
  have ready : custody.queue.popReady = true := by
    by_contra waiting
    simp [pop, waiting] at popped
  rcases sound.pop_spec ready with
    ⟨front, after', returned, delivered⟩ | ⟨empty, stopped, returned⟩
  · rw [returned] at popped
    obtain ⟨rfl, rfl⟩ : some front = result ∧ after' = after := by
      simpa using popped
    exact Or.inl ⟨front, rfl, delivered⟩
  · rw [returned] at popped
    obtain ⟨rfl, rfl⟩ : none = result ∧ custody = after := by
      simpa using popped
    exact Or.inr ⟨rfl, empty, stopped, rfl⟩

theorem delivered (sound : custody.Sound) {front : Ticketed ρ}
    {after : Custody ρ} (popped : custody.pop = some (some front, after)) :
    custody.Delivered front after := by
  rcases sound.pop_cases popped with ⟨_, same, delivered⟩ | ⟨impossible, _⟩
  · exact Option.some.inj same ▸ delivered
  · simp at impossible

/-- A `pop` without a record is the end of the stream. -/
theorem ended (sound : custody.Sound) {after : Custody ρ}
    (popped : custody.pop = some (none, after)) :
    custody.queue.contents = [] ∧ custody.queue.mShutdown = true ∧
      after = custody := by
  rcases sound.pop_cases popped with ⟨_, impossible, _⟩ | ⟨_, ended⟩
  · simp at impossible
  · exact ended

end Sound

end Custody

inductive QueueOp (ρ : Type) where
  | push (record : ρ)
  | pop
  | shutdown
  deriving DecidableEq, Repr

variable {ρ : Type}

/-- Any order of completed operations on a newly constructed queue. -/
def queueMachine [Inhabited ρ] (capacity : Nat) (policy : OverflowPolicy) :
    Machine (Custody ρ) (QueueOp ρ) where
  start := Custody.make capacity policy
  step custody
    | .push record => (custody.push record).map Prod.snd
    | .pop => custody.pop.map Prod.snd
    | .shutdown => some custody.shutdown

section Runs

variable [Inhabited ρ] {capacity : Nat} {policy : OverflowPolicy}

/-- The operations of a step, with what each of them leaves behind. -/
theorem queueMachine_step_cases {before after : Custody ρ} {op : QueueOp ρ}
    (sound : before.Sound)
    (stepped : (queueMachine capacity policy).step before op = some after) :
    (∃ record, op = .push record ∧ before.Accepted record after) ∨
      (∃ record, op = .push record ∧ before.queue.accepts = false ∧
        after = before) ∨
      (∃ front, op = .pop ∧ before.Delivered front after) ∨
      (op = .pop ∧ before.queue.contents = [] ∧
        before.queue.mShutdown = true ∧ after = before) ∨
      (op = .shutdown ∧ after = before.shutdown) := by
  cases op with
  | push record =>
      simp only [queueMachine, Option.map_eq_some_iff, Prod.exists,
        exists_eq_right] at stepped
      obtain ⟨result, pushed⟩ := stepped
      rcases sound.push_cases pushed with
        ⟨_, accepted⟩ | ⟨_, refuses, unchanged⟩
      · exact Or.inl ⟨record, rfl, accepted⟩
      · exact Or.inr (Or.inl ⟨record, rfl, refuses, unchanged⟩)
  | pop =>
      simp only [queueMachine, Option.map_eq_some_iff, Prod.exists,
        exists_eq_right] at stepped
      obtain ⟨result, popped⟩ := stepped
      rcases sound.pop_cases popped with
        ⟨front, _, delivered⟩ | ⟨_, empty, stopped, unchanged⟩
      · exact Or.inr (Or.inr (Or.inl ⟨front, rfl, delivered⟩))
      · exact Or.inr (Or.inr (Or.inr (Or.inl
          ⟨rfl, empty, stopped, unchanged⟩)))
  | shutdown =>
      simp only [queueMachine, Option.some.injEq] at stepped
      exact Or.inr (Or.inr (Or.inr (Or.inr ⟨rfl, stepped.symm⟩)))

/-- The queue stays sound and keeps its capacity and policy. -/
structure QueueInvariant (capacity : Nat) (policy : OverflowPolicy)
    (custody : Custody ρ) : Prop where
  sound : custody.Sound
  capacity_eq : custody.queue.mCapacity = capacity
  policy_eq : custody.queue.mPolicy = policy

theorem QueueInvariant.start (policy : OverflowPolicy)
    (positive : 0 < capacity) :
    QueueInvariant capacity policy
      (queueMachine (ρ := ρ) capacity policy).start :=
  ⟨.make policy positive, rfl, rfl⟩

theorem QueueInvariant.preserved :
    (queueMachine (ρ := ρ) capacity policy).Preserves Machine.Free
      (QueueInvariant capacity policy) := by
  intro before op after stepped _ invariant
  obtain ⟨sound, capacityEq, policyEq⟩ := invariant
  rcases queueMachine_step_cases sound stepped with
    ⟨_, _, accepted⟩ | ⟨_, _, _, rfl⟩ | ⟨_, _, delivered⟩ |
      ⟨_, _, _, rfl⟩ | ⟨_, rfl⟩
  · exact ⟨accepted.sound, accepted.shape.capacity.trans capacityEq,
      accepted.shape.policy.trans policyEq⟩
  · exact ⟨sound, capacityEq, policyEq⟩
  · exact ⟨delivered.sound, delivered.shape.capacity.trans capacityEq,
      delivered.shape.policy.trans policyEq⟩
  · exact ⟨sound, capacityEq, policyEq⟩
  · exact ⟨sound.shutdown, capacityEq, policyEq⟩

theorem queueMachine_invariant (positive : 0 < capacity)
    {custody : Custody ρ}
    (reachable : (queueMachine capacity policy).Reachable custody) :
    QueueInvariant capacity policy custody :=
  reachable.invariant QueueInvariant.preserved
    (QueueInvariant.start policy positive)

/-- Along any run the queue is a bounded first-in first-out list.  Its indices
agree; a `push` appends or refuses, evicting the first record only when the
policy asks for it and the list is full; a `pop` yields the first record; and
the popped records followed by the queued ones are the accepted records, in
order, with exactly the evicted ones deleted. -/
theorem queue_refines_bounded_fifo (positive : 0 < capacity)
    {ops : List (QueueOp ρ)} {state : Custody ρ}
    (run : (queueMachine capacity policy).Run Machine.Free
      (queueMachine capacity policy).start ops state) :
    (state.queue.mHead < capacity ∧ state.queue.mSize ≤ capacity ∧
      state.queue.mTail =
        (state.queue.mHead + state.queue.mSize) % capacity) ∧
    (∀ record, state.queue.pushReady = true →
      ∃ accepted after, state.push record = some (accepted, after) ∧
        (accepted = true → after.queue.contents =
          (if policy = .dropOldest ∧
              state.queue.contents.length = capacity then
            state.queue.contents.tail
          else state.queue.contents) ++ [state.ledger.stamp record]) ∧
        (accepted = false → after.queue.contents = state.queue.contents)) ∧
    (state.queue.popReady = true →
      ∃ popped after, state.pop = some (popped, after) ∧
        (∀ front, popped = some front →
          state.queue.contents = front :: after.queue.contents) ∧
        (popped = none → state.queue.contents = [] ∧ after = state)) ∧
    state.ledger.delivered ++ state.queue.contents =
      state.ledger.survivors := by
  obtain ⟨sound, capacityEq, policyEq⟩ :=
    queueMachine_invariant positive ⟨ops, run⟩
  have formed := sound.formed
  refine ⟨?_, ?_, ?_, sound.balanced.order⟩
  · rw [← capacityEq]
    exact ⟨formed.head_lt, formed.size_le, formed.tail_eq⟩
  · intro record ready
    rcases sound.push_spec ready record with
      ⟨_, after, pushed, accepted⟩ | ⟨_, pushed⟩
    · refine ⟨true, after, pushed, fun _ => ?_, by simp⟩
      rw [accepted.contents, formed.kept_eq, policyEq, capacityEq]
    · exact ⟨false, state, pushed, by simp, fun _ => rfl⟩
  · intro ready
    rcases sound.pop_spec ready with
      ⟨front, after, popped, delivered⟩ | ⟨empty, _, popped⟩
    · refine ⟨some front, after, popped, ?_, by simp⟩
      intro other same
      obtain rfl := Option.some.inj same
      exact delivered.contents
    · exact ⟨none, state, popped, by simp, fun _ => ⟨empty, rfl⟩⟩

theorem queue_refines_bounded_fifo_replacing :
    ∃ state : Custody Nat,
      (queueMachine 1 .dropOldest).Run Machine.Free
        (queueMachine 1 .dropOldest).start
        [.push 7, .push 8, .pop, .push 9] state ∧
      state.ledger.delivered = [⟨1, 8⟩] ∧
      state.ledger.delivered ++ state.queue.contents =
        state.ledger.survivors := by
  have run := Machine.run_of_exec (queueMachine (ρ := Nat) 1 .dropOldest)
    Machine.Free (queueMachine 1 .dropOldest).start
    [.push 7, .push 8, .pop, .push 9] rfl
  exact ⟨_, run, rfl,
    (queue_refines_bounded_fifo (by decide) run).2.2.2⟩

/-- Nothing enters a queue that was shut down, and once `pop` has answered
`false` the queue is empty for good, with every accepted record delivered or
evicted. -/
def ShutdownFinal (ρ : Type) [Inhabited ρ] (capacity : Nat)
    (policy : OverflowPolicy) : Prop :=
  ∀ state : Custody ρ, (queueMachine capacity policy).Reachable state →
    state.queue.mShutdown = true →
    (∀ record accepted after, state.push record = some (accepted, after) →
      accepted = false ∧ after.queue.contents = state.queue.contents) ∧
    (∀ ops last, (queueMachine capacity policy).Run Machine.Free state ops
      last → last.queue.contents.length ≤ state.queue.contents.length) ∧
    (∀ after, state.pop = some (none, after) →
      ∀ ops last, (queueMachine capacity policy).Run Machine.Free after ops
        last → last.queue.contents = [] ∧
          last.ledger.delivered = last.ledger.survivors)

/-- A queue that was shut down under `Block`, with at most `bound` records
left. -/
structure Closed (bound : Nat) (custody : Custody ρ) : Prop where
  sound : custody.Sound
  policy : custody.queue.mPolicy = .block
  stopped : custody.queue.mShutdown = true
  length_le : custody.queue.contents.length ≤ bound

theorem Closed.preserved (bound : Nat) :
    (queueMachine (ρ := ρ) capacity policy).Preserves Machine.Free
      (Closed bound) := by
  intro before op after stepped _ closed
  obtain ⟨sound, policyEq, stopped, lengthLe⟩ := closed
  rcases queueMachine_step_cases sound stepped with
    ⟨_, _, accepted⟩ | ⟨_, _, _, rfl⟩ | ⟨front, _, delivered⟩ |
      ⟨_, _, _, rfl⟩ | ⟨_, rfl⟩
  · have accepts := accepted.accepts
    simp [Queue.accepts, policyEq, stopped] at accepts
  · exact ⟨sound, policyEq, stopped, lengthLe⟩
  · refine ⟨delivered.sound, delivered.shape.policy.trans policyEq,
      delivered.shutdown_eq.trans stopped, ?_⟩
    rw [delivered.contents, List.length_cons] at lengthLe
    omega
  · exact ⟨sound, policyEq, stopped, lengthLe⟩
  · exact ⟨sound.shutdown, policyEq, rfl, lengthLe⟩

theorem shutdownFinal_block (positive : 0 < capacity) :
    ShutdownFinal ρ capacity .block := by
  intro state reachable stopped
  obtain ⟨sound, _, policyEq⟩ := queueMachine_invariant positive reachable
  refine ⟨?_, ?_, ?_⟩
  · intro record accepted after pushed
    rcases sound.push_cases pushed with ⟨_, taken⟩ | ⟨refused, _, rfl⟩
    · have accepts := taken.accepts
      simp [Queue.accepts, policyEq, stopped] at accepts
    · exact ⟨refused, rfl⟩
  · intro ops last run
    exact (run.invariant (Closed.preserved _)
      ⟨sound, policyEq, stopped, Nat.le_refl _⟩).length_le
  · intro after popped ops last run
    obtain ⟨empty, _, rfl⟩ := sound.ended popped
    have closed := run.invariant (Closed.preserved 0)
      ⟨sound, policyEq, stopped, by simp [empty]⟩
    have lastEmpty : last.queue.contents = [] :=
      List.length_eq_zero_iff.mp (Nat.le_zero.mp closed.length_le)
    refine ⟨lastEmpty, ?_⟩
    simpa [lastEmpty] using closed.sound.balanced.order

/-- Only the `Block` branch of `push` looks at `m_shutdown`: shutdown is final
for the queue under `Block` and under no other policy. -/
theorem shutdownFinal_iff_block (positive : 0 < capacity)
    (policy : OverflowPolicy) :
    ShutdownFinal ρ capacity policy ↔ policy = .block := by
  constructor
  · intro final
    let start : Custody ρ := Custody.make capacity policy
    have sound : start.shutdown.Sound := (Custody.Sound.make policy
      positive).shutdown
    have reachable :
        (queueMachine capacity policy).Reachable start.shutdown :=
      ⟨[.shutdown], .single trivial rfl⟩
    have refuses := (final start.shutdown reachable rfl).1 default
    by_contra notBlock
    have room : (0 : Nat) ≠ capacity := Nat.ne_of_lt positive
    have ready : start.shutdown.queue.pushReady = true := by
      cases policy <;> first | rfl | exact absurd rfl notBlock
    have accepts : start.shutdown.queue.accepts = true := by
      cases policy <;>
        first
        | exact absurd rfl notBlock
        | simp [start, Queue.accepts, Custody.shutdown, Queue.shutdown,
            Custody.make, Queue.make, room]
    rcases sound.push_spec ready default with
      ⟨_, after, pushed, _⟩ | ⟨refusing, _⟩
    · simpa using (refuses true after pushed).1
    · rw [accepts] at refusing
      simp at refusing
  · rintro rfl
    exact shutdownFinal_block positive

theorem shutdownFinal_iff_block_four : ShutdownFinal Nat 4 .block :=
  (shutdownFinal_iff_block (by decide) .block).mpr rfl

/-- A `DropNewest` queue takes a record after it was shut down and after its
consumer was told that the stream has ended. -/
theorem push_accepted_after_end_of_stream :
    ∃ state after : Custody Nat,
      (queueMachine 4 .dropNewest).Run Machine.Free
        (queueMachine 4 .dropNewest).start [.shutdown, .pop] state ∧
      state.queue.mShutdown = true ∧ state.pop = some (none, state) ∧
      state.push 7 = some (true, after) ∧
      after.queue.contents = [⟨0, 7⟩] ∧ ¬ShutdownFinal Nat 4 .dropNewest := by
  have run := Machine.run_of_exec (queueMachine (ρ := Nat) 4 .dropNewest)
    Machine.Free (queueMachine 4 .dropNewest).start [.shutdown, .pop] rfl
  refine ⟨_, _, run, rfl, rfl, rfl, rfl, ?_⟩
  intro final
  have refuses := (final _ ⟨_, run⟩ rfl).1 7 true _ rfl
  exact absurd refuses.1 (by decide)

end Runs

end LogParse
