import LogParse.QueueWakeup

/-!
# Every call of the queue comes to an end or has to wait

Between the calls of new operations the threads around a queue only take the
steps their calls still owe: a woken thread tests its predicate again, and a
thread that has left the mutex sends its notification.  There are few such
steps, whatever the queue holds, and when none is left every thread that
sleeps has to.
-/

namespace LogParse

namespace PushThread

variable {ρ : Type}

def isInside : PushThread ρ → Bool
  | .outside => false
  | _ => true

@[simp] theorem isInside_wake (thread : PushThread ρ) :
    thread.wake.isInside = thread.isInside := by
  cases thread <;> rfl

end PushThread

namespace ShutdownThread

def isInside : ShutdownThread → Bool
  | .outside => false
  | _ => true

def owesBoth : ShutdownThread → Bool
  | .owingBoth => true
  | _ => false

end ShutdownThread

/-- The thread is inside a call already, and nothing is spurious. -/
def QueueLabel.goesOn {ι κ ρ : Type} : QueueLabel ι κ ρ → Bool
  | .pushResume _ | .pushNotify _ | .popResume | .popNotify _
  | .shutdownNotifyEmpty _ | .shutdownNotifyFull _ => true
  | .pushEnter _ _ | .pushSpurious _ | .popEnter | .popSpurious
  | .shutdownEnter _ => false

namespace QueueThreads

variable {ι κ ρ : Type} [DecidableEq ι] [Fintype ι] [DecidableEq κ]
  [Fintype κ]

def popInside (consumer : PopThread) : Nat :=
  if consumer = .outside then 0 else 1

def popWoken (consumer : PopThread) : Nat :=
  if consumer = .woken then 1 else 0

/-- How many notifications the calls under way may still send. -/
def notifications (state : QueueThreads ι κ ρ) : Nat :=
  census PushThread.isInside state.producers + popInside state.consumer +
    census ShutdownThread.isInside state.closers +
    census ShutdownThread.owesBoth state.closers

def wokenCount (state : QueueThreads ι κ ρ) : Nat :=
  census PushThread.isWoken state.producers + popWoken state.consumer

/-- A notification may wake all other threads, and each of them may test its
predicate once for it. -/
def budget (state : QueueThreads ι κ ρ) : Nat :=
  state.notifications * (Fintype.card ι + 2) + state.wokenCount

/-- Nobody is inside a call who could leave it: a sleeping consumer finds
nothing, a sleeping producer finds no room, and the queue is not shut down. -/
structure AtRest (state : QueueThreads ι κ ρ) : Prop where
  consumer : state.consumer = .outside ∨
    state.consumer = .asleep ∧ state.custody.queue.mSize = 0 ∧
      state.custody.queue.mShutdown = false
  producers : ∀ producer, state.producers producer = .outside ∨
    (state.producers producer).isAsleep = true ∧
      state.custody.queue.mSize = state.custody.queue.mCapacity ∧
      state.custody.queue.mShutdown = false
  closers : ∀ closer, state.closers closer = .outside

variable {before after state : QueueThreads ι κ ρ} {producer : ι}
  {closer : κ} {record : ρ}

omit [DecidableEq ι] [DecidableEq κ] [Fintype κ] in
theorem wokenCount_le (state : QueueThreads ι κ ρ) :
    state.wokenCount ≤ Fintype.card ι + 1 := by
  have producers := census_le_card PushThread.isWoken state.producers
  have consumer : popWoken state.consumer ≤ 1 := by
    unfold popWoken
    split <;> omega
  unfold wokenCount
  omega

omit [DecidableEq ι] [DecidableEq κ] in
theorem notifications_le (state : QueueThreads ι κ ρ) :
    state.notifications ≤ Fintype.card ι + 1 + 2 * Fintype.card κ := by
  have producers := census_le_card PushThread.isInside state.producers
  have inside := census_le_card ShutdownThread.isInside state.closers
  have both := census_le_card ShutdownThread.owesBoth state.closers
  have consumer : popInside state.consumer ≤ 1 := by
    unfold popInside
    split <;> omega
  unfold notifications
  omega

omit [DecidableEq ι] [DecidableEq κ] in
/-- Sending a notification pays for everybody it wakes. -/
theorem budget_notify
    (sent : after.notifications + 1 = before.notifications) :
    after.budget < before.budget := by
  have woken := after.wokenCount_le
  simp only [budget, ← sent, Nat.add_mul]
  omega

omit [DecidableEq ι] [DecidableEq κ] in
/-- So does a woken thread that runs. -/
theorem budget_resume
    (fewer : after.notifications ≤ before.notifications)
    (ran : after.wokenCount + 1 = before.wokenCount) :
    after.budget < before.budget := by
  have notified : after.notifications * (Fintype.card ι + 2) ≤
      before.notifications * (Fintype.card ι + 2) :=
    Nat.mul_le_mul_right _ fewer
  simp only [budget]
  omega

omit [DecidableEq κ] in
/-- The producer that ran is no longer woken, wherever it went. -/
theorem budget_pushSection (woken : before.producers producer = .woken record)
    (stepped : before.pushSection producer record = some after) :
    after.budget < before.budget := by
  have moves (place : PushThread ρ) (awake : place.isWoken = false)
      (custody : Custody ρ) :
      budget { before with
        custody := custody
        producers := Function.update before.producers producer place } <
          before.budget := by
    apply budget_resume
    · have moved := census_update PushThread.isInside before.producers
        producer place
      have inside : (before.producers producer).isInside = true := by
        rw [woken]
        rfl
      simp only [inside, if_true] at moved
      simp only [notifications]
      split at moved <;> omega
    · have left : census PushThread.isWoken
          (Function.update before.producers producer place) + 1 =
            census PushThread.isWoken before.producers :=
        census_update_leave (by rw [woken]; rfl) awake
      simp only [wokenCount]
      omega
  simp only [pushSection] at stepped
  split at stepped
  · split at stepped
    · cases stepped
      exact moves .owing rfl _
    · cases stepped
      exact moves .outside rfl _
    · cases stepped
  · cases stepped
    exact moves (.asleep record) rfl before.custody

omit [DecidableEq ι] [DecidableEq κ] in
theorem budget_popSection (woken : before.consumer = .woken)
    (stepped : before.popSection = some after) :
    after.budget < before.budget := by
  have moves (place : PopThread) (awake : place ≠ .woken)
      (custody : Custody ρ) :
      budget { before with custody := custody, consumer := place } <
        before.budget := by
    apply budget_resume
    · have inside : popInside place ≤ 1 := by
        unfold popInside
        split <;> omega
      simp only [notifications, woken, popInside] at inside ⊢
      simp only [reduceCtorEq, if_false]
      omega
    · simp [wokenCount, popWoken, woken, awake]
  simp only [popSection] at stepped
  split at stepped
  · split at stepped
    · cases stepped
      exact moves .owing (by decide) _
    · cases stepped
      exact moves .outside (by decide) _
    · cases stepped
  · cases stepped
    exact moves .asleep (by decide) before.custody

theorem popInside_wake (consumer : PopThread) :
    popInside consumer.wake = popInside consumer := by
  cases consumer <;> rfl

omit [DecidableEq κ] in
theorem budget_pushNotify (stepped : before.pushNotify producer = some after) :
    after.budget < before.budget := by
  simp only [pushNotify] at stepped
  split at stepped
  · rename_i owing
    cases stepped
    apply budget_notify
    have left : census PushThread.isInside
        (Function.update before.producers producer .outside) + 1 =
          census PushThread.isInside before.producers :=
      census_update_leave (by rw [owing]; rfl) rfl
    simp only [notifications, popInside_wake]
    omega
  · cases stepped

omit [DecidableEq κ] in
theorem budget_popNotify {chosen : Option ι}
    (stepped : before.popNotify chosen = some after) :
    after.budget < before.budget := by
  unfold popNotify at stepped
  split at stepped
  · rename_i producer owing
    split at stepped
    · rename_i record asleep
      cases stepped
      apply budget_notify
      have same : census PushThread.isInside
          (Function.update before.producers producer (.woken record)) =
            census PushThread.isInside before.producers :=
        census_update_same (by rw [asleep]; rfl)
      simp only [notifications, same, owing, popInside, if_true,
        reduceCtorEq, if_false]
      omega
    · cases stepped
  · rename_i owing
    split at stepped
    · cases stepped
      apply budget_notify
      simp only [notifications, owing, popInside, if_true, reduceCtorEq,
        if_false]
      omega
    · cases stepped
  · cases stepped

omit [DecidableEq ι] in
theorem budget_shutdownNotifyEmpty
    (stepped : before.shutdownNotifyEmpty closer = some after) :
    after.budget < before.budget := by
  simp only [shutdownNotifyEmpty] at stepped
  split at stepped
  · rename_i owing
    cases stepped
    apply budget_notify
    have inside : census ShutdownThread.isInside
        (Function.update before.closers closer .owingNotFull) =
          census ShutdownThread.isInside before.closers :=
      census_update_same (by rw [owing]; rfl)
    have left : census ShutdownThread.owesBoth
        (Function.update before.closers closer .owingNotFull) + 1 =
          census ShutdownThread.owesBoth before.closers :=
      census_update_leave (by rw [owing]; rfl) rfl
    simp only [notifications, inside, popInside_wake]
    omega
  · cases stepped

omit [DecidableEq ι] in
theorem budget_shutdownNotifyFull
    (stepped : before.shutdownNotifyFull closer = some after) :
    after.budget < before.budget := by
  simp only [shutdownNotifyFull] at stepped
  split at stepped
  · rename_i owing
    cases stepped
    apply budget_notify
    have left : census ShutdownThread.isInside
        (Function.update before.closers closer .outside) + 1 =
          census ShutdownThread.isInside before.closers :=
      census_update_leave (by rw [owing]; rfl) rfl
    have both : census ShutdownThread.owesBoth
        (Function.update before.closers closer .outside) =
          census ShutdownThread.owesBoth before.closers :=
      census_update_same (by rw [owing]; rfl)
    have woken : census PushThread.isInside
        (fun producer => (before.producers producer).wake) =
          census PushThread.isInside before.producers :=
      census_congr fun producer => PushThread.isInside_wake _
    simp only [notifications, both, woken]
    omega
  · cases stepped

variable [Inhabited ρ] {capacity : Nat} {policy : OverflowPolicy}

theorem budget_step {label : QueueLabel ι κ ρ}
    (stepped : (queueThreadsMachine capacity policy).step before label =
      some after) (goesOn : label.goesOn = true) :
    after.budget < before.budget := by
  cases label with
  | pushResume producer =>
      simp only [queueThreadsMachine, pushResume] at stepped
      split at stepped
      · exact budget_pushSection ‹_› stepped
      · cases stepped
  | popResume =>
      simp only [queueThreadsMachine, popResume] at stepped
      split at stepped
      · exact budget_popSection ‹_› stepped
      · cases stepped
  | pushNotify producer => exact budget_pushNotify stepped
  | popNotify chosen => exact budget_popNotify stepped
  | shutdownNotifyEmpty closer => exact budget_shutdownNotifyEmpty stepped
  | shutdownNotifyFull closer => exact budget_shutdownNotifyFull stepped
  | pushEnter | pushSpurious | popEnter | popSpurious | shutdownEnter =>
      cases goesOn

abbrev GoesOn (_before : QueueThreads ι κ ρ) (label : QueueLabel ι κ ρ) :
    Prop :=
  label.goesOn = true

omit [DecidableEq κ] [Fintype κ] [Inhabited ρ] in
theorem pushSection_enabled (awake : state.Awake) (producer : ι)
    (record : ρ) : (state.pushSection producer record).isSome = true := by
  unfold pushSection
  by_cases ready : state.custody.queue.pushReady = true
  · rcases awake.sound.push_spec ready record with
      ⟨_, custody, pushed, _⟩ | ⟨_, pushed⟩
    · simp [ready, pushed]
    · simp [ready, pushed]
  · simp [ready]

omit [DecidableEq ι] [DecidableEq κ] [Fintype κ] [Inhabited ρ] in
theorem popSection_enabled (awake : state.Awake) :
    state.popSection.isSome = true := by
  unfold popSection
  by_cases ready : state.custody.queue.popReady = true
  · rcases awake.sound.pop_spec ready with
      ⟨front, custody, popped, _⟩ | ⟨_, _, popped⟩
    · simp [ready, popped]
    · simp [ready, popped]
  · simp [ready]

omit [Fintype κ] in
/-- A thread that is not asleep can take its next step. -/
theorem Awake.asleep_of_stuck (awake : state.Awake)
    (stuck : (queueThreadsMachine capacity policy).Stuck GoesOn state) :
    (state.consumer = .outside ∨ state.consumer = .asleep) ∧
      (∀ producer, state.producers producer = .outside ∨
        (state.producers producer).isAsleep = true) ∧
      ∀ closer, state.closers closer = .outside := by
  refine ⟨?_, ?_, ?_⟩
  · cases place : state.consumer with
    | outside => exact .inl rfl
    | asleep => exact .inr rfl
    | woken =>
        have refused := stuck .popResume rfl
        have enabled := popSection_enabled awake
        simp only [queueThreadsMachine, QueueThreads.popResume, place]
          at refused
        simp [refused] at enabled
    | owing =>
        by_cases nobody : ∀ producer,
            (state.producers producer).isAsleep = false
        · have refused := stuck (.popNotify none) rfl
          simp [queueThreadsMachine, QueueThreads.popNotify, place, nobody]
            at refused
        · simp only [not_forall, Bool.not_eq_false] at nobody
          obtain ⟨producer, asleep⟩ := nobody
          have refused := stuck (.popNotify (some producer)) rfl
          cases sleeping : state.producers producer with
          | asleep record =>
              simp [queueThreadsMachine, QueueThreads.popNotify, place, sleeping]
                at refused
          | _ => simp [sleeping, PushThread.isAsleep] at asleep
  · intro producer
    cases place : state.producers producer with
    | outside => exact .inl rfl
    | asleep record => exact .inr rfl
    | woken record =>
        have refused := stuck (.pushResume producer) rfl
        have enabled := pushSection_enabled awake producer record
        simp only [queueThreadsMachine, QueueThreads.pushResume, place]
          at refused
        simp [refused] at enabled
    | owing =>
        have refused := stuck (.pushNotify producer) rfl
        simp [queueThreadsMachine, QueueThreads.pushNotify, place] at refused
  · intro closer
    cases place : state.closers closer with
    | outside => rfl
    | owingBoth =>
        have refused := stuck (.shutdownNotifyEmpty closer) rfl
        simp [queueThreadsMachine, QueueThreads.shutdownNotifyEmpty, place]
          at refused
    | owingNotFull =>
        have refused := stuck (.shutdownNotifyFull closer) rfl
        simp [queueThreadsMachine, QueueThreads.shutdownNotifyFull, place]
          at refused

omit [Fintype κ] in
theorem Awake.atRest (awake : state.Awake)
    (stuck : (queueThreadsMachine capacity policy).Stuck GoesOn state) :
    state.AtRest := by
  obtain ⟨consumer, producers, closers⟩ := awake.asleep_of_stuck stuck
  refine ⟨?_, ?_, closers⟩
  · refine consumer.imp_right fun asleep => ⟨asleep, ?_, ?_⟩
    · by_contra nonempty
      obtain ⟨producer, owing⟩ :=
        awake.emptyOwed asleep (Nat.pos_of_ne_zero nonempty)
      have place := producers producer
      simp [owing, PushThread.isAsleep] at place
    · by_contra stopped
      obtain ⟨closer, owing⟩ :=
        awake.emptyClosing asleep (by simpa using stopped)
      simp [closers closer] at owing
  · intro producer
    refine (producers producer).imp_right fun asleep => ?_
    have running : state.custody.queue.mShutdown = false := by
      by_contra stopped
      obtain ⟨closer, inside⟩ :=
        awake.fullClosing ⟨producer, asleep⟩ (by simpa using stopped)
      exact inside (closers closer)
    refine ⟨asleep, ?_, running⟩
    have counted := awake.fullOwed ⟨producer, asleep⟩ running
    have nobodyWoken : census PushThread.isWoken state.producers = 0 := by
      apply census_eq_zero
      intro other
      rcases producers other with outside | sleeping
      · rw [outside]
        rfl
      · cases place : state.producers other <;>
          simp_all [PushThread.isAsleep, PushThread.isWoken]
    have nothingOwed : owed state.consumer = 0 := by
      rcases consumer with outside | asleep
      · simp [owed, outside]
      · simp [owed, asleep]
    have bounded := awake.sound.formed.size_le
    simp only [nobodyWoken, nothingOwed, free] at counted
    omega

/-- From every state the calls under way take no more steps than a number that
depends on the threads alone, in whatever order, and when they take none any
more every thread is outside or has to wait. -/
theorem calls_settle (positive : 0 < capacity)
    (reachable : (queueThreadsMachine capacity policy).Reachable state)
    {labels : List (QueueLabel ι κ ρ)} {last : QueueThreads ι κ ρ}
    (run : (queueThreadsMachine capacity policy).Run GoesOn state labels
      last) :
    labels.length ≤
        (Fintype.card ι + 1 + 2 * Fintype.card κ) * (Fintype.card ι + 2) +
          (Fintype.card ι + 1) ∧
      ((queueThreadsMachine capacity policy).Stuck GoesOn last →
        last.AtRest) ∧
      ∃ more rest, (queueThreadsMachine capacity policy).Run GoesOn last
        more rest ∧ rest.AtRest := by
  have awake : state.Awake :=
    reachable.invariant Awake.preserved (Awake.start policy positive)
  have preserved : (queueThreadsMachine (ι := ι) (κ := κ) (ρ := ρ) capacity
      policy).Preserves GoesOn Awake :=
    fun _ _ _ stepped _ holds => Awake.preserved stepped trivial holds
  have paid ⦃before : QueueThreads ι κ ρ⦄ ⦃label : QueueLabel ι κ ρ⦄
      ⦃after : QueueThreads ι κ ρ⦄
      (stepped : (queueThreadsMachine capacity policy).step before label =
        some after)
      (goesOn : GoesOn before label) (_ : before.Awake) :
      after.budget < before.budget :=
    budget_step stepped goesOn
  have awakeLast : last.Awake := run.invariant preserved awake
  refine ⟨?_, fun stuck => awakeLast.atRest stuck, ?_⟩
  · have bounded := run.length_le preserved paid awake
    have notified : state.notifications * (Fintype.card ι + 2) ≤
        (Fintype.card ι + 1 + 2 * Fintype.card κ) * (Fintype.card ι + 2) :=
      Nat.mul_le_mul_right _ state.notifications_le
    have woken := state.wokenCount_le
    unfold budget at bounded
    omega
  · obtain ⟨more, rest, onward, stuck⟩ :=
      Machine.exists_run_stuck preserved paid last awakeLast
    exact ⟨more, rest, onward,
      (onward.invariant preserved awakeLast).atRest stuck⟩

/-- A producer sleeps on a full queue when the queue is shut down. -/
theorem calls_settle_shutdown :
    ∃ (state last : QueueThreads (Fin 1) (Fin 1) Nat)
      (labels : List (QueueLabel (Fin 1) (Fin 1) Nat)),
      (queueThreadsMachine 1 .block).Reachable state ∧
      (state.producers 0).isAsleep = true ∧
      (queueThreadsMachine 1 .block).Run GoesOn state labels last ∧
      labels.length = 2 ∧
      ∃ more rest, (queueThreadsMachine 1 .block).Run GoesOn last more rest ∧
        rest.AtRest := by
  obtain ⟨state, run, asleep, goesOn⟩ := Machine.exists_run
    (queueThreadsMachine (ι := Fin 1) (κ := Fin 1) (ρ := Nat) 1 .block)
    Machine.Free (queueThreadsMachine 1 .block).start
    [.pushEnter 0 7, .pushNotify 0, .pushEnter 0 8, .shutdownEnter 0]
    (fun state => (state.producers 0).isAsleep = true ∧
      ((queueThreadsMachine 1 .block).exec GoesOn state
        [.shutdownNotifyEmpty 0, .shutdownNotifyFull 0]).isSome = true)
    (by decide)
  obtain ⟨last, reached⟩ := Option.isSome_iff_exists.mp goesOn
  have onward := Machine.run_of_exec _ GoesOn state _ reached
  exact ⟨state, last, _, ⟨_, run⟩, asleep, onward, rfl,
    (calls_settle (by decide) ⟨_, run⟩ onward).2.2⟩

end QueueThreads

end LogParse
