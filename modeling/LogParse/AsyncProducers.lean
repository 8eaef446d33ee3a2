import LogParse.AsyncProgress

/-!
# The order of each producer

The queue merges what the producers log.  The worker writes the records of
each producer in the order in which that producer logged them, and none
twice.  With a blocking queue it also leaves none out.
-/

namespace LogParse

section Order

variable {ι κ ρ ε φ : Type} [DecidableEq ι] [DecidableEq κ]

/-- The record that a producer logs with this step. -/
def AsyncLabel.logged? (producer : ι) : AsyncLabel ι κ ρ φ → Option ρ
  | .logPush caller record => if caller = producer then some record else none
  | _ => none

/-- What a producer has logged, in order. -/
def logged (producer : ι) (labels : List (AsyncLabel ι κ ρ φ)) : List ρ :=
  labels.filterMap (AsyncLabel.logged? producer)

/-- The producer whose record the queue took in with this step. -/
def takenFrom? (transition : Machine.Transition (AsyncBackend ι κ ρ ε)
    (AsyncLabel ι κ ρ φ)) : Option ι :=
  match transition.label with
  | .logPush producer _ =>
      match transition.after.producers producer with
      | .submitting _ => some producer
      | .outside => none
  | _ => none

/-- The producers of the accepted records, in order of acceptance. -/
def origins (transitions : List (Machine.Transition (AsyncBackend ι κ ρ ε)
    (AsyncLabel ι κ ρ φ))) : List ι :=
  transitions.filterMap takenFrom?

/-- What the queue took in from a producer. -/
def takenIn (producer : ι) (transitions : List (Machine.Transition
    (AsyncBackend ι κ ρ ε) (AsyncLabel ι κ ρ φ))) : List ρ :=
  (transitions.filter fun transition =>
    takenFrom? transition = some producer).filterMap
      fun transition => transition.label.logged? producer

namespace AsyncBackend

/-- The accepted records of each producer are those that the queue took in
from it. -/
structure Attributed (transitions : List (Machine.Transition
    (AsyncBackend ι κ ρ ε) (AsyncLabel ι κ ρ φ)))
    (backend : AsyncBackend ι κ ρ ε) : Prop where
  complete : (origins transitions).length =
    backend.custody.ledger.accepted.length
  owned : ∀ producer, Ledger.owned (origins transitions) producer
    backend.custody.ledger.accepted = takenIn producer transitions

namespace Attributed

variable {transitions : List (Machine.Transition (AsyncBackend ι κ ρ ε)
    (AsyncLabel ι κ ρ φ))} {before after : AsyncBackend ι κ ρ ε}
  {label : AsyncLabel ι κ ρ φ} {emitter : Emitter ρ ε φ}

omit [DecidableEq κ] in
/-- A step that takes in no record. -/
theorem idle (attributed : before.Attributed transitions)
    (nothing : takenFrom? ⟨before, label, after⟩ = none)
    (same : after.custody.ledger.accepted =
      before.custody.ledger.accepted) :
    after.Attributed (transitions ++ [⟨before, label, after⟩]) := by
  have origin : origins (transitions ++ [⟨before, label, after⟩]) =
      origins transitions := by
    simp [origins, nothing]
  refine ⟨?_, fun producer => ?_⟩
  · rw [origin, same]
    exact attributed.complete
  · rw [origin, same, attributed.owned]
    simp [takenIn, nothing]

omit [DecidableEq κ] in
theorem logAccepted (attributed : before.Attributed transitions)
    {producer : ι} {record : ρ}
    (balanced : before.custody.ledger.Balanced
      before.custody.queue.contents)
    (submitting : ∃ ticket, after.producers producer = .submitting ticket)
    (grown : after.custody.ledger.accepted =
      (before.custody.ledger.accept record).accepted) :
    after.Attributed
      (transitions ++ [⟨before, .logPush producer record, after⟩]) := by
  obtain ⟨ticket, submitting⟩ := submitting
  have takes : takenFrom? (⟨before, .logPush producer record, after⟩ :
      Machine.Transition (AsyncBackend ι κ ρ ε) (AsyncLabel ι κ ρ φ)) =
        some producer := by
    simp [takenFrom?, submitting]
  have origin : origins
      (transitions ++ [⟨before, .logPush producer record, after⟩]) =
        origins transitions ++ [producer] := by
    simp [origins, takes]
  refine ⟨?_, fun owner => ?_⟩
  · rw [origin, grown]
    simp [Ledger.accept, attributed.complete]
  · rw [origin, grown, balanced.owned_accept attributed.complete,
      attributed.owned]
    by_cases same : producer = owner
    · subst owner
      simp [takenIn, takes, AsyncLabel.logged?]
    · simp [takenIn, takes, same]

theorem step (attributed : before.Attributed transitions)
    (accounts : before.Accounts)
    (stepped : AsyncStep emitter before label after) :
    after.Attributed (transitions ++ [⟨before, label, after⟩]) := by
  have sound := accounts.sound
  cases stepped with
  | logAccepted outside pushed =>
      have accepted := sound.accepted pushed
      refine attributed.logAccepted sound.balanced ⟨_, by simp; rfl⟩ ?_
      simp [accepted.ledger, Ledger.accept, Ledger.stamp]
  | logRefused outside pushed =>
      obtain ⟨_, rfl⟩ := sound.refused pushed
      exact attributed.idle (by simp [takenFrom?, outside]) rfl
  | workerPop popping popped =>
      have delivered := sound.delivered popped
      exact attributed.idle rfl (by simp [delivered.ledger, Ledger.deliver])
  | workerMiss popping popped | workerDrained popping popped =>
      obtain ⟨_, _, rfl⟩ := sound.ended popped
      exact attributed.idle rfl rfl
  | _ => exact attributed.idle rfl rfl

end Attributed

variable [Inhabited ρ] {emitter : Emitter ρ ε φ} {capacity : Nat}
  {policy : OverflowPolicy} {output : ε} {backend : AsyncBackend ι κ ρ ε}
  {admits : AsyncBackend ι κ ρ ε → AsyncLabel ι κ ρ φ → Prop}
  {labels : List (AsyncLabel ι κ ρ φ)}

/-- Who logged the accepted records of a run. -/
def owners (emitter : Emitter ρ ε φ) (capacity : Nat)
    (policy : OverflowPolicy) (output : ε)
    (labels : List (AsyncLabel ι κ ρ φ)) : List ι :=
  origins ((asyncMachine ι κ emitter capacity policy output).transitions
    (.make capacity policy output) labels)

theorem Attributed.of_run (positive : 0 < capacity)
    (run : (asyncMachine ι κ emitter capacity policy output).Run admits
      (.make capacity policy output) labels backend) :
    backend.Attributed ((asyncMachine ι κ emitter capacity policy
      output).transitions (.make capacity policy output) labels) := by
  induction run with
  | nil => exact ⟨rfl, fun _ => rfl⟩
  | snoc previous _ stepped induction =>
      rw [previous.transitions_snoc stepped]
      exact induction.step
        (previous.invariant (Accounts.preserved _)
          (.start policy positive output)) (.of_step stepped)

/-- The labels of a run are those of its steps. -/
theorem logged_eq (producer : ι)
    (run : (asyncMachine ι κ emitter capacity policy output).Run admits
      (.make capacity policy output) labels backend) :
    ((asyncMachine ι κ emitter capacity policy output).transitions
      (.make capacity policy output) labels).filterMap
        (fun transition => transition.label.logged? producer) =
      logged producer labels := by
  have same := congrArg (logged producer) run.labels_eq
  rw [← same, logged, List.filterMap_map]
  rfl

theorem takenIn_sublist (producer : ι)
    (run : (asyncMachine ι κ emitter capacity policy output).Run admits
      (.make capacity policy output) labels backend) :
    (takenIn producer ((asyncMachine ι κ emitter capacity policy
      output).transitions (.make capacity policy output) labels)).Sublist
        (logged producer labels) := by
  rw [← logged_eq producer run]
  exact List.filter_sublist.filterMap _

omit [DecidableEq ι] [DecidableEq κ] [Inhabited ρ] in
theorem Accounts.written_sublist (accounts : backend.Accounts) :
    backend.written.Sublist backend.custody.ledger.accepted := by
  have order := accounts.sound.balanced.order
  rw [accounts.delivery.written_eq, List.append_assoc] at order
  have survives : backend.written.Sublist
      backend.custody.ledger.survivors := by
    rw [← order]
    exact List.sublist_append_left _ _
  exact survives.trans List.filter_sublist

/-- Under every policy, every record that is written was logged by one
producer, and what is written of a producer is a part of what it has logged,
in that order. -/
theorem producers_in_order (positive : 0 < capacity)
    (run : (asyncMachine ι κ emitter capacity policy output).Run admits
      (.make capacity policy output) labels backend) :
    (backend.written.map Ticketed.ticket).Nodup ∧
      (∀ entry ∈ backend.written, ∃ producer,
        (owners emitter capacity policy output labels)[entry.ticket]? =
            some producer ∧
          entry.item ∈ logged producer labels) ∧
      ∀ producer, (Ledger.owned
        (owners emitter capacity policy output labels) producer
          backend.written).Sublist (logged producer labels) := by
  have accounts : backend.Accounts :=
    run.invariant (Accounts.preserved _) (.start policy positive output)
  have attributed := Attributed.of_run positive run
  have inOrder (producer : ι) : (Ledger.owned
      (owners emitter capacity policy output labels) producer
        backend.written).Sublist (logged producer labels) := by
    refine (Ledger.owned_sublist accounts.written_sublist).trans ?_
    rw [owners, attributed.owned]
    exact takenIn_sublist producer run
  refine ⟨?_, ?_, inOrder⟩
  · have distinct := accounts.sound.balanced.numbered ▸
      List.nodup_range (n := backend.custody.ledger.accepted.length)
    exact distinct.sublist (accounts.written_sublist.map _)
  · intro entry member
    obtain ⟨index, found⟩ :=
      List.mem_iff_getElem?.mp (accounts.written_sublist.subset member)
    obtain ⟨within, _⟩ := List.getElem?_eq_some_iff.mp found
    have number := accounts.sound.balanced.ticket_eq found
    obtain ⟨producer, owner⟩ : ∃ producer,
        (owners emitter capacity policy output labels)[entry.ticket]? =
          some producer := by
      rw [number]
      exact ⟨_, List.getElem?_eq_getElem (attributed.complete ▸ within)⟩
    refine ⟨producer, owner, (inOrder producer).subset ?_⟩
    exact List.mem_map.mpr ⟨entry,
      List.mem_filter.mpr ⟨member, decide_eq_true owner⟩, rfl⟩

/-- The first of three records is evicted, the other two come from two
producers. -/
theorem producers_in_order_evicting :
    ∃ (labels : List (AsyncLabel Bool Unit Nat Unit))
      (backend : AsyncBackend Bool Unit Nat Unit),
      backend.written = [⟨1, 8⟩, ⟨2, 9⟩] ∧
      logged true labels = [7, 9] ∧
      (Ledger.owned
        (owners Emitter.silent 2 .dropOldest () labels) true
          backend.written).Sublist (logged true labels) := by
  obtain ⟨backend, run, written⟩ := Machine.exists_run
    (asyncMachine Bool Unit (Emitter.silent (ρ := Nat)) 2 .dropOldest ())
    Machine.Free (.make 2 .dropOldest ())
    [.logPush true 7, .logPush false 8, .logCount true, .logPush true 9,
      .logCount false, .workerCheck, .workerPop, .workerWrite (),
      .workerCount, .workerCompare, .workerCheck, .workerPop,
      .workerWrite ()]
    (fun backend => backend.written = [⟨1, 8⟩, ⟨2, 9⟩]) (by decide)
  exact ⟨_, backend, written, rfl,
    (producers_in_order (by decide) run).2.2 true⟩

/-- The queue evicts nothing, and it is open while `m_running` is set. -/
structure Lossless (backend : AsyncBackend ι κ ρ ε) : Prop where
  draining : backend.Draining
  policy_eq : backend.custody.queue.mPolicy = .block
  kept : backend.custody.ledger.evicted = []
  open_while : backend.mRunning = true →
    backend.custody.queue.mShutdown = false

namespace Lossless

variable {before after : AsyncBackend ι κ ρ ε} {label : AsyncLabel ι κ ρ φ}

omit [Inhabited ρ] in
theorem step (lossless : before.Lossless) (orderly : before.Orderly label)
    (stepped : AsyncStep emitter before label after) : after.Lossless := by
  have draining := lossless.draining.step orderly stepped
  have sound := lossless.draining.accounts.sound
  obtain ⟨_, policyEq, kept, openWhile⟩ := lossless
  cases stepped with
  | logAccepted outside pushed =>
      have accepted := sound.accepted pushed
      refine ⟨draining, accepted.shape.policy.trans policyEq, ?_, ?_⟩
      · simpa [accepted.ledger, Custody.evictOldest, Queue.evicts, policyEq,
          Ledger.accept] using kept
      · dsimp only
        rw [accepted.shutdown_eq]
        exact openWhile
  | logRefused outside pushed =>
      obtain ⟨_, rfl⟩ := sound.refused pushed
      exact ⟨draining, policyEq, kept, openWhile⟩
  | workerPop popping popped =>
      have delivered := sound.delivered popped
      refine ⟨draining, delivered.shape.policy.trans policyEq, ?_, ?_⟩
      · simpa [delivered.ledger, Ledger.deliver] using kept
      · dsimp only
        rw [delivered.shutdown_eq]
        exact openWhile
  | workerMiss popping popped | workerDrained popping popped =>
      obtain ⟨_, _, rfl⟩ := sound.ended popped
      exact ⟨draining, policyEq, kept, openWhile⟩
  | stopBegin outside running =>
      exact ⟨draining, policyEq, kept, by simp⟩
  | stopShutdown shuttingDown =>
      refine ⟨draining, policyEq, kept, fun running => ?_⟩
      have stopping := draining.stopping (by simp)
      rw [running] at stopping
      cases stopping
  | _ => exact ⟨draining, policyEq, kept, openWhile⟩

theorem preserved :
    (asyncMachine ι κ emitter capacity policy output).Preserves Orderly
      Lossless :=
  fun _ _ _ stepped orderly lossless =>
    lossless.step orderly (.of_step stepped)

omit [DecidableEq κ] [DecidableEq ι] in
theorem start (positive : 0 < capacity) (output : ε) :
    (AsyncBackend.make capacity .block output :
      AsyncBackend ι κ ρ ε).Lossless :=
  ⟨.start .block positive output, rfl, rfl, fun _ => rfl⟩

omit [Inhabited ρ] in
/-- No `log` before `stop` is turned away. -/
theorem takes (lossless : before.Lossless) (orderly : before.Orderly label)
    (stepped : AsyncStep emitter before label after) {producer : ι}
    {record : ρ} (logs : label.logged? producer = some record) :
    takenFrom? ⟨before, label, after⟩ = some producer := by
  cases stepped with
  | @logAccepted caller _ _ outside pushed =>
      simp only [AsyncLabel.logged?, Option.ite_none_right_eq_some] at logs
      simp [takenFrom?, logs.1]
  | logRefused outside pushed =>
      obtain ⟨refusing, _⟩ :=
        lossless.draining.accounts.sound.refused pushed
      have running := lossless.open_while (orderly.1 rfl)
      simp [Queue.accepts, lossless.policy_eq, running] at refusing
  | _ => cases logs

omit [DecidableEq ι] [DecidableEq κ] [Inhabited ρ] in
/-- What is written, what the worker holds and what waits are all the
accepted records. -/
theorem accepted_eq (lossless : backend.Lossless) :
    backend.custody.ledger.accepted = backend.written ++
      (backend.worker.unwritten ++ backend.custody.queue.contents) := by
  have accounts := lossless.draining.accounts
  rw [← List.append_assoc, ← accounts.delivery.written_eq,
    accounts.sound.balanced.order, Ledger.survivors, lossless.kept]
  simp

end Lossless

/-- With a blocking queue, what is written of a producer is, at any time, the
first part of what it has logged before `stop`, and all of it once the worker
has returned. -/
theorem producers_complete (positive : 0 < capacity)
    (run : (asyncMachine ι κ emitter capacity .block output).Run Orderly
      (.make capacity .block output) labels backend) (producer : ι) :
    Ledger.owned (owners emitter capacity .block output labels) producer
        backend.written <+: logged producer labels ∧
      (backend.worker = .returned →
        Ledger.owned (owners emitter capacity .block output labels) producer
          backend.written = logged producer labels) := by
  have lossless : backend.Lossless :=
    run.invariant Lossless.preserved (Lossless.start positive output)
  have attributed := Attributed.of_run positive run
  have all : takenIn producer ((asyncMachine ι κ emitter capacity .block
      output).transitions (.make capacity .block output) labels) =
        logged producer labels := by
    rw [← logged_eq producer run, takenIn, List.filterMap_filter]
    apply List.filterMap_congr
    intro transition member
    obtain ⟨before, orderly, stepped⟩ := run.forall_transitions
      Lossless.preserved (Lossless.start positive output) transition member
    cases logs : transition.label.logged? producer with
    | none => simp
    | some record =>
        have takes := before.takes orderly (.of_step stepped) logs
        simp [takes]
  have whole := attributed.owned producer
  rw [all, lossless.accepted_eq, Ledger.owned_append] at whole
  refine ⟨⟨_, whole⟩, fun returned => ?_⟩
  obtain ⟨_, empty, _⟩ := lossless.draining.returned returned
  have nothing : backend.worker.unwritten ++ backend.custody.queue.contents =
      [] := by
    rw [returned, empty]
    rfl
  rw [nothing] at whole
  exact (List.append_nil _).symm.trans whole

theorem producers_complete_two :
    ∃ (labels : List (AsyncLabel Bool Unit Nat Unit))
      (backend : AsyncBackend Bool Unit Nat Unit),
      backend.worker = .returned ∧ logged true labels = [7, 9] ∧
      Ledger.owned (owners Emitter.silent 3 .block () labels) true
        backend.written = [7, 9] := by
  obtain ⟨backend, run, returned⟩ := Machine.exists_run
    (asyncMachine Bool Unit (Emitter.silent (ρ := Nat)) 3 .block ())
    Orderly (.make 3 .block ())
    [.logPush true 7, .logPush false 8, .logCount true, .logPush true 9,
      .logCount true, .logCount false, .stopBegin, .stopShutdown,
      .workerCheck, .workerPop, .workerWrite (), .workerCount,
      .workerPop, .workerWrite (), .workerCount, .workerPop,
      .workerWrite (), .workerCount, .workerPop, .workerFlush]
    (fun backend => backend.worker = .returned) (by decide)
  exact ⟨_, backend, returned, rfl,
    (producers_complete (by decide) run true).2 returned⟩

end AsyncBackend

end Order

end LogParse
