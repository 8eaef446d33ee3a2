import LogParse.Library.Threads
import LogParse.QueueCustody

/-!
# Sleeping and waking on the queue

The threads around one `Queue`, one mutex-protected critical section at a
time.  A caller whose predicate is false goes to sleep in the step that tests
it.  A notification is a step of its own, taken after the mutex was released,
so between the two the thread owes it.  Any thread may wake up spuriously.
-/

namespace LogParse

/-- A thread and its place in `push`. -/
inductive PushThread (ρ : Type) where
  | outside
  | asleep (record : ρ)
  | woken (record : ρ)
  | owing
  deriving DecidableEq, Repr

/-- The consumer's place in `pop`. -/
inductive PopThread where
  | outside
  | asleep
  | woken
  | owing
  deriving DecidableEq, Repr

/-- A thread and its place in `shutdown`: both notifications are owed, or only
the one of `m_not_full`. -/
inductive ShutdownThread where
  | outside
  | owingBoth
  | owingNotFull
  deriving DecidableEq, Repr

namespace PushThread

variable {ρ : Type}

/-- What `m_not_full.notify_all()` does to one thread. -/
def wake : PushThread ρ → PushThread ρ
  | .asleep record => .woken record
  | other => other

def isAsleep : PushThread ρ → Bool
  | .asleep _ => true
  | _ => false

def isWoken : PushThread ρ → Bool
  | .woken _ => true
  | _ => false

end PushThread

/-- What a notification of `m_not_empty` does to its only waiter. -/
def PopThread.wake : PopThread → PopThread
  | .asleep => .woken
  | other => other

structure QueueThreads (ι κ ρ : Type) where
  custody : Custody ρ
  producers : ι → PushThread ρ
  consumer : PopThread
  closers : κ → ShutdownThread

inductive QueueLabel (ι κ ρ : Type) where
  | pushEnter (producer : ι) (record : ρ)
  | pushResume (producer : ι)
  | pushNotify (producer : ι)
  | pushSpurious (producer : ι)
  | popEnter
  | popResume
  | popNotify (chosen : Option ι)
  | popSpurious
  | shutdownEnter (closer : κ)
  | shutdownNotifyEmpty (closer : κ)
  | shutdownNotifyFull (closer : κ)

namespace QueueThreads

variable {ι κ ρ : Type} [DecidableEq ι] [Fintype ι] [DecidableEq κ]

/-- `push` from the lock to the unlock, or to the sleep. -/
def pushSection (state : QueueThreads ι κ ρ) (producer : ι) (record : ρ) :
    Option (QueueThreads ι κ ρ) :=
  let place (thread : PushThread ρ) :=
    Function.update state.producers producer thread
  if state.custody.queue.pushReady then
    match state.custody.push record with
    | some (true, custody) =>
        some { state with custody := custody, producers := place .owing }
    | some (false, custody) =>
        some { state with custody := custody, producers := place .outside }
    | none => none
  else some { state with producers := place (.asleep record) }

/-- `pop` from the lock to the unlock, or to the sleep. -/
def popSection (state : QueueThreads ι κ ρ) : Option (QueueThreads ι κ ρ) :=
  if state.custody.queue.popReady then
    match state.custody.pop with
    | some (some _, custody) =>
        some { state with custody := custody, consumer := .owing }
    | some (none, custody) =>
        some { state with custody := custody, consumer := .outside }
    | none => none
  else some { state with consumer := .asleep }

def pushEnter (state : QueueThreads ι κ ρ) (producer : ι) (record : ρ) :
    Option (QueueThreads ι κ ρ) :=
  match state.producers producer with
  | .outside => state.pushSection producer record
  | _ => none

def pushResume (state : QueueThreads ι κ ρ) (producer : ι) :
    Option (QueueThreads ι κ ρ) :=
  match state.producers producer with
  | .woken record => state.pushSection producer record
  | _ => none

/-- `m_not_empty.notify_one()`. -/
def pushNotify (state : QueueThreads ι κ ρ) (producer : ι) :
    Option (QueueThreads ι κ ρ) :=
  match state.producers producer with
  | .owing =>
      some { state with
        producers := Function.update state.producers producer .outside
        consumer := state.consumer.wake }
  | _ => none

def pushSpurious (state : QueueThreads ι κ ρ) (producer : ι) :
    Option (QueueThreads ι κ ρ) :=
  match state.producers producer with
  | .asleep record =>
      some { state with
        producers := Function.update state.producers producer
          (.woken record) }
  | _ => none

def popEnter (state : QueueThreads ι κ ρ) : Option (QueueThreads ι κ ρ) :=
  match state.consumer with
  | .outside => state.popSection
  | _ => none

def popResume (state : QueueThreads ι κ ρ) : Option (QueueThreads ι κ ρ) :=
  match state.consumer with
  | .woken => state.popSection
  | _ => none

/-- `m_not_full.notify_one()`: it wakes one sleeper, whichever, and is lost
only when nobody sleeps. -/
def popNotify (state : QueueThreads ι κ ρ) (chosen : Option ι) :
    Option (QueueThreads ι κ ρ) :=
  match state.consumer, chosen with
  | .owing, some producer =>
      match state.producers producer with
      | .asleep record =>
          some { state with
            producers := Function.update state.producers producer
              (.woken record)
            consumer := .outside }
      | _ => none
  | .owing, none =>
      if ∀ producer, (state.producers producer).isAsleep = false then
        some { state with consumer := .outside }
      else none
  | _, _ => none

def popSpurious (state : QueueThreads ι κ ρ) : Option (QueueThreads ι κ ρ) :=
  match state.consumer with
  | .asleep => some { state with consumer := .woken }
  | _ => none

def shutdownEnter (state : QueueThreads ι κ ρ) (closer : κ) :
    Option (QueueThreads ι κ ρ) :=
  match state.closers closer with
  | .outside =>
      some { state with
        custody := state.custody.shutdown
        closers := Function.update state.closers closer .owingBoth }
  | _ => none

/-- `m_not_empty.notify_all()`. -/
def shutdownNotifyEmpty (state : QueueThreads ι κ ρ) (closer : κ) :
    Option (QueueThreads ι κ ρ) :=
  match state.closers closer with
  | .owingBoth =>
      some { state with
        consumer := state.consumer.wake
        closers := Function.update state.closers closer .owingNotFull }
  | _ => none

/-- `m_not_full.notify_all()`. -/
def shutdownNotifyFull (state : QueueThreads ι κ ρ) (closer : κ) :
    Option (QueueThreads ι κ ρ) :=
  match state.closers closer with
  | .owingNotFull =>
      some { state with
        producers := fun producer => (state.producers producer).wake
        closers := Function.update state.closers closer .outside }
  | _ => none

end QueueThreads

section Machine

variable {ι κ ρ : Type} [DecidableEq ι] [Fintype ι] [DecidableEq κ]

def queueThreadsMachine [Inhabited ρ] (capacity : Nat)
    (policy : OverflowPolicy) :
    Machine (QueueThreads ι κ ρ) (QueueLabel ι κ ρ) where
  start :=
    { custody := Custody.make capacity policy
      producers := fun _ => .outside
      consumer := .outside
      closers := fun _ => .outside }
  step state
    | .pushEnter producer record => state.pushEnter producer record
    | .pushResume producer => state.pushResume producer
    | .pushNotify producer => state.pushNotify producer
    | .pushSpurious producer => state.pushSpurious producer
    | .popEnter => state.popEnter
    | .popResume => state.popResume
    | .popNotify chosen => state.popNotify chosen
    | .popSpurious => state.popSpurious
    | .shutdownEnter closer => state.shutdownEnter closer
    | .shutdownNotifyEmpty closer => state.shutdownNotifyEmpty closer
    | .shutdownNotifyFull closer => state.shutdownNotifyFull closer

end Machine

namespace QueueThreads

variable {ι κ ρ : Type} [DecidableEq ι] [Fintype ι] [DecidableEq κ]

@[simp] theorem isAsleep_wake (thread : PushThread ρ) :
    thread.wake.isAsleep = false := by
  cases thread <;> rfl

@[simp] theorem wake_ne_asleep (thread : PopThread) :
    thread.wake ≠ .asleep := by
  cases thread <;> decide

@[simp] theorem wake_eq_owing_iff (thread : PopThread) :
    thread.wake = .owing ↔ thread = .owing := by
  cases thread <;> decide

omit [Fintype ι] in
/-- A thread that owes `m_not_empty` a notification goes on owing it while
others move. -/
theorem owing_update {producers : ι → PushThread ρ} {mover : ι}
    {place : PushThread ρ} (notOwing : producers mover ≠ .owing)
    (owed : ∃ producer, producers producer = .owing) :
    ∃ producer, Function.update producers mover place producer = .owing := by
  obtain ⟨producer, owing⟩ := owed
  refine ⟨producer, ?_⟩
  rw [Function.update_of_ne, owing]
  rintro rfl
  exact notOwing owing

omit [Fintype ι] in
theorem asleep_of_update {producers : ι → PushThread ρ} {mover : ι}
    {place : PushThread ρ} (awake : place.isAsleep = false)
    (sleeping : ∃ producer,
      (Function.update producers mover place producer).isAsleep = true) :
    ∃ producer, (producers producer).isAsleep = true := by
  obtain ⟨producer, asleep⟩ := sleeping
  by_cases same : producer = mover
  · subst producer
    simp [awake] at asleep
  · rw [Function.update_of_ne same] at asleep
    exact ⟨producer, asleep⟩

/-- The slots nobody has taken yet. -/
def free (queue : Queue ρ) : Nat := queue.mCapacity - queue.mSize

/-- One thread's notification, if it owes one, counts as one. -/
def owed (consumer : PopThread) : Nat := if consumer = .owing then 1 else 0

/-- The counting invariant: while a producer sleeps on a queue that was not
shut down, each free slot is matched by a woken producer or by a notification
that is still to be sent. -/
structure Awake (state : QueueThreads ι κ ρ) : Prop where
  sound : state.custody.Sound
  emptyOwed : state.consumer = .asleep → 0 < state.custody.queue.mSize →
    ∃ producer, state.producers producer = .owing
  emptyClosing : state.consumer = .asleep →
    state.custody.queue.mShutdown = true →
    ∃ closer, state.closers closer = .owingBoth
  fullOwed : (∃ producer, (state.producers producer).isAsleep = true) →
    state.custody.queue.mShutdown = false →
    free state.custody.queue ≤
      census PushThread.isWoken state.producers + owed state.consumer
  fullClosing : (∃ producer, (state.producers producer).isAsleep = true) →
    state.custody.queue.mShutdown = true →
    ∃ closer, state.closers closer ≠ .outside

/-- An accepted record takes a free slot, if there was one. -/
theorem free_accepted {before after : Custody ρ} {record : ρ}
    (sound : before.Sound) (accepted : before.Accepted record after) :
    free after.queue ≤ free before.queue - 1 := by
  have lengths := congrArg List.length accepted.contents
  have bound := accepted.sound.formed.size_le
  have capacity := accepted.shape.capacity
  rw [accepted.sound.formed.length_contents, sound.formed.kept_eq] at lengths
  have sizeEq := sound.formed.length_contents
  simp only [free]
  split at lengths <;> simp at lengths <;> omega

theorem free_delivered {before after : Custody ρ} {front : Ticketed ρ}
    (sound : before.Sound) (delivered : before.Delivered front after) :
    free after.queue = free before.queue + 1 := by
  have lengths := congrArg List.length delivered.contents
  have bound := sound.formed.size_le
  have capacity := delivered.shape.capacity
  rw [sound.formed.length_contents, List.length_cons,
    delivered.sound.formed.length_contents] at lengths
  simp only [free]
  omega

/-- A `push` that is refused although the queue was not shut down found no
free slot. -/
theorem free_refused {queue : Queue ρ} (refused : queue.accepts = false)
    (running : queue.mShutdown = false) : free queue = 0 := by
  unfold Queue.accepts at refused
  split at refused
  · simp [running] at refused
  · simp at refused
  · simp_all [free]
  · simp_all [free]

namespace Awake

variable {state after : QueueThreads ι κ ρ}

omit [DecidableEq κ] in
/-- The critical section of `push`, entered for the first time or again. -/
theorem pushSection (awake : state.Awake) {producer : ι} {record : ρ}
    (notOwing : state.producers producer ≠ .owing)
    (stepped : state.pushSection producer record = some after) :
    after.Awake := by
  have left (place : PushThread ρ) (notWoken : place.isWoken = false) :
      census PushThread.isWoken state.producers ≤
        census PushThread.isWoken
          (Function.update state.producers producer place) + 1 := by
    have moved := census_update PushThread.isWoken state.producers producer
      place
    rw [notWoken] at moved
    split at moved <;> simp at moved <;> omega
  simp only [QueueThreads.pushSection] at stepped
  split at stepped
  · rename_i ready
    rcases awake.sound.push_spec ready record with
      ⟨_, custody, pushed, accepted⟩ | ⟨refused, pushed⟩
    · simp only [pushed, Option.some.injEq] at stepped
      subst after
      have shutdownEq := accepted.shutdown_eq
      refine ⟨accepted.sound, fun _ _ => ⟨producer, by simp⟩, ?_, ?_, ?_⟩
      · intro asleep stopped
        exact awake.emptyClosing asleep (shutdownEq.symm.trans stopped)
      · intro sleeping running
        have before := awake.fullOwed (asleep_of_update rfl sleeping)
          (shutdownEq.symm.trans running)
        have taken := free_accepted awake.sound accepted
        have counted := left .owing rfl
        dsimp only at taken before ⊢
        omega
      · intro sleeping stopped
        exact awake.fullClosing (asleep_of_update rfl sleeping)
          (shutdownEq.symm.trans stopped)
    · simp only [pushed, Option.some.injEq] at stepped
      subst after
      refine ⟨awake.sound, ?_, awake.emptyClosing, ?_, ?_⟩
      · intro asleep nonempty
        exact owing_update notOwing (awake.emptyOwed asleep nonempty)
      · intro _ running
        dsimp only at running ⊢
        rw [free_refused refused running]
        exact Nat.zero_le _
      · intro sleeping stopped
        exact awake.fullClosing (asleep_of_update rfl sleeping) stopped
  · rename_i waiting
    simp only [Option.some.injEq] at stepped
    subst after
    have full : free state.custody.queue = 0 ∧
        state.custody.queue.mShutdown = false := by
      unfold Queue.pushReady at waiting
      split at waiting <;> simp_all [free]
    refine ⟨awake.sound, ?_, awake.emptyClosing, ?_, ?_⟩
    · intro asleep nonempty
      exact owing_update notOwing (awake.emptyOwed asleep nonempty)
    · intro _ _
      dsimp only
      rw [full.1]
      exact Nat.zero_le _
    · intro _ stopped
      dsimp only at stopped
      rw [full.2] at stopped
      simp at stopped

omit [DecidableEq ι] [DecidableEq κ] in
theorem popSection (awake : state.Awake) (notOwing : state.consumer ≠ .owing)
    (stepped : state.popSection = some after) : after.Awake := by
  have nothingOwed : owed state.consumer = 0 := by simp [owed, notOwing]
  simp only [QueueThreads.popSection] at stepped
  split at stepped
  · rename_i ready
    rcases awake.sound.pop_spec ready with
      ⟨front, custody, popped, delivered⟩ | ⟨_, _, popped⟩
    · simp only [popped, Option.some.injEq] at stepped
      subst after
      have shutdownEq := delivered.shutdown_eq
      refine ⟨delivered.sound, by simp, by simp, ?_, ?_⟩
      · intro sleeping running
        have before := awake.fullOwed sleeping
          (shutdownEq.symm.trans running)
        have freed := free_delivered awake.sound delivered
        rw [nothingOwed] at before
        simp only [owed, if_true]
        omega
      · intro sleeping stopped
        exact awake.fullClosing sleeping (shutdownEq.symm.trans stopped)
    · simp only [popped, Option.some.injEq] at stepped
      subst after
      refine ⟨awake.sound, by simp, by simp, ?_, awake.fullClosing⟩
      intro sleeping running
      have before := awake.fullOwed sleeping running
      rw [nothingOwed] at before
      exact Nat.le_trans before (Nat.le_add_right _ _)
  · rename_i waiting
    simp only [Option.some.injEq] at stepped
    subst after
    simp only [Queue.popReady, Bool.or_eq_true, decide_eq_true_eq, not_or,
      Bool.not_eq_true] at waiting
    refine ⟨awake.sound, ?_, ?_, ?_, awake.fullClosing⟩
    · intro _ nonempty
      exact absurd nonempty waiting.1
    · intro _ stopped
      dsimp only at stopped
      rw [waiting.2] at stopped
      simp at stopped
    · intro sleeping running
      have before := awake.fullOwed sleeping running
      rw [nothingOwed] at before
      exact Nat.le_trans before (Nat.le_add_right _ _)

omit [DecidableEq κ] in
theorem pushNotify (awake : state.Awake) {producer : ι}
    (stepped : state.pushNotify producer = some after) : after.Awake := by
  simp only [QueueThreads.pushNotify] at stepped
  split at stepped
  · rename_i owing
    simp only [Option.some.injEq] at stepped
    subst after
    refine ⟨awake.sound, by simp, by simp, ?_, ?_⟩
    · intro sleeping running
      have before := awake.fullOwed (asleep_of_update rfl sleeping) running
      have counted : census PushThread.isWoken
          (Function.update state.producers producer .outside) =
            census PushThread.isWoken state.producers :=
        census_update_same (by rw [owing]; rfl)
      simpa [counted, owed] using before
    · intro sleeping stopped
      exact awake.fullClosing (asleep_of_update rfl sleeping) stopped
  · simp at stepped

omit [DecidableEq κ] in
/-- A sleeper that wakes up is counted from then on. -/
theorem pushSpurious (awake : state.Awake) {producer : ι}
    (stepped : state.pushSpurious producer = some after) : after.Awake := by
  simp only [QueueThreads.pushSpurious] at stepped
  split at stepped
  · rename_i record asleep
    simp only [Option.some.injEq] at stepped
    subst after
    refine ⟨awake.sound, ?_, awake.emptyClosing, ?_, ?_⟩
    · intro consumerAsleep nonempty
      exact owing_update (by simp [asleep])
        (awake.emptyOwed consumerAsleep nonempty)
    · intro sleeping running
      have before := awake.fullOwed (asleep_of_update rfl sleeping) running
      have notWoken : (state.producers producer).isWoken = false := by
        rw [asleep]
        rfl
      have counted := census_update_enter (.woken record) notWoken rfl
      dsimp only
      omega
    · intro sleeping stopped
      exact awake.fullClosing (asleep_of_update rfl sleeping) stopped
  · simp at stepped

omit [DecidableEq κ] in
/-- `notify_one` turns the notification that was owed into a woken producer,
or nobody sleeps. -/
theorem popNotify (awake : state.Awake) {chosen : Option ι}
    (stepped : state.popNotify chosen = some after) : after.Awake := by
  unfold QueueThreads.popNotify at stepped
  split at stepped
  · rename_i producer owing
    split at stepped
    · rename_i record asleep
      simp only [Option.some.injEq] at stepped
      subst after
      refine ⟨awake.sound, by simp, by simp, ?_, ?_⟩
      · intro sleeping running
        have before := awake.fullOwed (asleep_of_update rfl sleeping) running
        have notWoken : (state.producers producer).isWoken = false := by
          rw [asleep]
          rfl
        have counted := census_update_enter (.woken record) notWoken rfl
        simp only [owed, owing, if_true] at before
        dsimp only
        omega
      · intro sleeping stopped
        exact awake.fullClosing (asleep_of_update rfl sleeping) stopped
    · simp at stepped
  · split at stepped
    · rename_i nobody
      simp only [Option.some.injEq] at stepped
      subst after
      have noSleeper :
          ¬∃ producer, (state.producers producer).isAsleep = true := by
        simpa using nobody
      exact ⟨awake.sound, by simp, by simp,
        fun sleeping => absurd sleeping noSleeper,
        fun sleeping => absurd sleeping noSleeper⟩
    · simp at stepped
  · simp at stepped

omit [DecidableEq ι] [DecidableEq κ] in
theorem popSpurious (awake : state.Awake)
    (stepped : state.popSpurious = some after) : after.Awake := by
  simp only [QueueThreads.popSpurious] at stepped
  split at stepped
  · rename_i asleep
    simp only [Option.some.injEq] at stepped
    subst after
    refine ⟨awake.sound, by simp, by simp, ?_, awake.fullClosing⟩
    intro sleeping running
    simpa [owed, asleep] using awake.fullOwed sleeping running
  · simp at stepped

omit [DecidableEq ι] in
theorem shutdownEnter (awake : state.Awake) {closer : κ}
    (stepped : state.shutdownEnter closer = some after) : after.Awake := by
  simp only [QueueThreads.shutdownEnter] at stepped
  split at stepped
  · simp only [Option.some.injEq] at stepped
    subst after
    refine ⟨awake.sound.shutdown, awake.emptyOwed,
      fun _ _ => ⟨closer, by simp⟩, ?_, fun _ _ => ⟨closer, by simp⟩⟩
    intro _ running
    simp [Custody.shutdown, Queue.shutdown] at running
  · simp at stepped

omit [DecidableEq ι] in
theorem shutdownNotifyEmpty (awake : state.Awake) {closer : κ}
    (stepped : state.shutdownNotifyEmpty closer = some after) :
    after.Awake := by
  simp only [QueueThreads.shutdownNotifyEmpty] at stepped
  split at stepped
  · simp only [Option.some.injEq] at stepped
    subst after
    refine ⟨awake.sound, by simp, by simp, ?_, fun _ _ => ⟨closer, by simp⟩⟩
    intro sleeping running
    simpa [owed] using awake.fullOwed sleeping running
  · simp at stepped

omit [DecidableEq ι] in
theorem shutdownNotifyFull (awake : state.Awake) {closer : κ}
    (stepped : state.shutdownNotifyFull closer = some after) :
    after.Awake := by
  simp only [QueueThreads.shutdownNotifyFull] at stepped
  split at stepped
  · rename_i owing
    simp only [Option.some.injEq] at stepped
    subst after
    refine ⟨awake.sound, ?_, ?_, by simp, by simp⟩
    · intro asleep nonempty
      obtain ⟨producer, owes⟩ := awake.emptyOwed asleep nonempty
      exact ⟨producer, by simp [owes, PushThread.wake]⟩
    · intro asleep stopped
      obtain ⟨other, owingBoth⟩ := awake.emptyClosing asleep stopped
      refine ⟨other, ?_⟩
      have different : other ≠ closer := by
        rintro rfl
        simp [owing] at owingBoth
      simp [Function.update_of_ne different, owingBoth]
  · simp at stepped

end Awake

variable [Inhabited ρ] {capacity : Nat} {policy : OverflowPolicy}

theorem Awake.start (policy : OverflowPolicy) (positive : 0 < capacity) :
    (queueThreadsMachine (ι := ι) (κ := κ) (ρ := ρ) capacity
      policy).start.Awake where
  sound := .make policy positive
  emptyOwed asleep := by simp [queueThreadsMachine] at asleep
  emptyClosing asleep := by simp [queueThreadsMachine] at asleep
  fullOwed sleeping := by
    simp [queueThreadsMachine, PushThread.isAsleep] at sleeping
  fullClosing sleeping := by
    simp [queueThreadsMachine, PushThread.isAsleep] at sleeping

theorem Awake.preserved :
    (queueThreadsMachine (ι := ι) (κ := κ) (ρ := ρ) capacity
      policy).Preserves Machine.Free Awake := by
  intro before label after stepped _ awake
  cases label with
  | pushEnter producer record =>
      simp only [queueThreadsMachine, QueueThreads.pushEnter] at stepped
      split at stepped
      · rename_i outside
        exact awake.pushSection (by simp [outside]) stepped
      · simp at stepped
  | pushResume producer =>
      simp only [queueThreadsMachine, QueueThreads.pushResume] at stepped
      split at stepped
      · rename_i record woken
        exact awake.pushSection (by simp [woken]) stepped
      · simp at stepped
  | pushNotify producer => exact awake.pushNotify stepped
  | pushSpurious producer => exact awake.pushSpurious stepped
  | popEnter =>
      simp only [queueThreadsMachine, QueueThreads.popEnter] at stepped
      split at stepped
      · rename_i outside
        exact awake.popSection (by simp [outside]) stepped
      · simp at stepped
  | popResume =>
      simp only [queueThreadsMachine, QueueThreads.popResume] at stepped
      split at stepped
      · rename_i woken
        exact awake.popSection (by simp [woken]) stepped
      · simp at stepped
  | popNotify chosen => exact awake.popNotify stepped
  | popSpurious => exact awake.popSpurious stepped
  | shutdownEnter closer => exact awake.shutdownEnter stepped
  | shutdownNotifyEmpty closer => exact awake.shutdownNotifyEmpty stepped
  | shutdownNotifyFull closer => exact awake.shutdownNotifyFull stepped

/-- The consumer never sleeps on a queue that has something for it, and no
producer sleeps on a queue that would let it go on, unless somebody still owes
the notification or has been woken and has yet to run. -/
theorem no_lost_wakeup (positive : 0 < capacity)
    {state : QueueThreads ι κ ρ}
    (reachable : (queueThreadsMachine capacity policy).Reachable state) :
    ¬(state.consumer = .asleep ∧
        (0 < state.custody.queue.mSize ∨
          state.custody.queue.mShutdown = true) ∧
        (∀ producer, state.producers producer ≠ .owing) ∧
        ∀ closer, state.closers closer ≠ .owingBoth) ∧
    ¬((∃ producer, (state.producers producer).isAsleep = true) ∧
        (state.custody.queue.mSize < state.custody.queue.mCapacity ∨
          state.custody.queue.mShutdown = true) ∧
        state.consumer ≠ .owing ∧
        (∀ closer, state.closers closer = .outside) ∧
        ∀ producer, (state.producers producer).isWoken = false) := by
  have awake : state.Awake :=
    reachable.invariant Awake.preserved (Awake.start policy positive)
  constructor
  · rintro ⟨asleep, wanted, nobodyOwes, nobodyCloses⟩
    rcases wanted with nonempty | stopped
    · obtain ⟨producer, owing⟩ := awake.emptyOwed asleep nonempty
      exact nobodyOwes producer owing
    · obtain ⟨closer, owing⟩ := awake.emptyClosing asleep stopped
      exact nobodyCloses closer owing
  · rintro ⟨sleeping, wanted, notOwing, nobodyCloses, nobodyWoken⟩
    cases stopped : state.custody.queue.mShutdown with
    | true =>
        obtain ⟨closer, closing⟩ := awake.fullClosing sleeping stopped
        exact closing (nobodyCloses closer)
    | false =>
        have room : state.custody.queue.mSize <
            state.custody.queue.mCapacity := by
          simpa [stopped] using wanted
        have counted := awake.fullOwed sleeping stopped
        rw [census_eq_zero nobodyWoken] at counted
        simp only [owed, notOwing, if_false, free] at counted
        omega

theorem no_lost_wakeup_producer_owed :
    ∃ state : QueueThreads (Fin 1) (Fin 1) Nat,
      (queueThreadsMachine 1 .block).Reachable state ∧
      (state.producers 0).isAsleep = true ∧ state.consumer = .owing ∧
      ¬(state.consumer = .asleep ∧
        (0 < state.custody.queue.mSize ∨
          state.custody.queue.mShutdown = true) ∧
        (∀ producer, state.producers producer ≠ .owing) ∧
        ∀ closer, state.closers closer ≠ .owingBoth) := by
  have run := Machine.run_of_exec
    (queueThreadsMachine (ι := Fin 1) (κ := Fin 1) (ρ := Nat) 1 .block)
    Machine.Free (queueThreadsMachine 1 .block).start
    [.pushEnter 0 7, .pushNotify 0, .pushEnter 0 8, .popEnter] rfl
  exact ⟨_, ⟨_, run⟩, rfl, rfl, (no_lost_wakeup (by decide) ⟨_, run⟩).1⟩

omit [Fintype ι] [DecidableEq κ] [Inhabited ρ] in
theorem pushSection_custody {state after : QueueThreads ι κ ρ}
    {producer : ι} {record : ρ}
    (stepped : state.pushSection producer record = some after) :
    after.custody = state.custody ∨
      ∃ result, state.custody.push record = some (result, after.custody) := by
  simp only [QueueThreads.pushSection] at stepped
  split at stepped
  · split at stepped
    · rename_i custody pushed
      simp only [Option.some.injEq] at stepped
      subst after
      exact Or.inr ⟨true, pushed⟩
    · rename_i custody pushed
      simp only [Option.some.injEq] at stepped
      subst after
      exact Or.inr ⟨false, pushed⟩
    · simp at stepped
  · simp only [Option.some.injEq] at stepped
    subst after
    exact Or.inl rfl

omit [DecidableEq ι] [Fintype ι] [DecidableEq κ] [Inhabited ρ] in
theorem popSection_custody {state after : QueueThreads ι κ ρ}
    (stepped : state.popSection = some after) :
    after.custody = state.custody ∨
      ∃ result, state.custody.pop = some (result, after.custody) := by
  simp only [QueueThreads.popSection] at stepped
  split at stepped
  · split at stepped
    · rename_i front custody popped
      simp only [Option.some.injEq] at stepped
      subst after
      exact Or.inr ⟨some front, popped⟩
    · rename_i custody popped
      simp only [Option.some.injEq] at stepped
      subst after
      exact Or.inr ⟨none, popped⟩
    · simp at stepped
  · simp only [Option.some.injEq] at stepped
    subst after
    exact Or.inl rfl

/-- Every step of the threads is one completed operation of the queue or
leaves the queue alone. -/
theorem step_refines {before after : QueueThreads ι κ ρ}
    {label : QueueLabel ι κ ρ}
    (stepped : (queueThreadsMachine capacity policy).step before label =
      some after) :
    after.custody = before.custody ∨
      ∃ op, (queueMachine capacity policy).step before.custody op =
        some after.custody := by
  have pushes {producer : ι} {record : ρ}
      (stepped : before.pushSection producer record = some after) :
      after.custody = before.custody ∨
        ∃ op, (queueMachine capacity policy).step before.custody op =
          some after.custody := by
    rcases pushSection_custody stepped with same | ⟨result, pushed⟩
    · exact Or.inl same
    · exact Or.inr ⟨.push record, by simp [queueMachine, pushed]⟩
  have pops (stepped : before.popSection = some after) :
      after.custody = before.custody ∨
        ∃ op, (queueMachine capacity policy).step before.custody op =
          some after.custody := by
    rcases popSection_custody stepped with same | ⟨result, popped⟩
    · exact Or.inl same
    · exact Or.inr ⟨.pop, by simp [queueMachine, popped]⟩
  cases label with
  | pushEnter producer record =>
      simp only [queueThreadsMachine, pushEnter] at stepped
      split at stepped
      · exact pushes stepped
      · simp at stepped
  | pushResume producer =>
      simp only [queueThreadsMachine, pushResume] at stepped
      split at stepped
      · exact pushes stepped
      · simp at stepped
  | popEnter =>
      simp only [queueThreadsMachine, popEnter] at stepped
      split at stepped
      · exact pops stepped
      · simp at stepped
  | popResume =>
      simp only [queueThreadsMachine, popResume] at stepped
      split at stepped
      · exact pops stepped
      · simp at stepped
  | shutdownEnter closer =>
      simp only [queueThreadsMachine, shutdownEnter] at stepped
      split at stepped
      · simp only [Option.some.injEq] at stepped
        subst after
        exact Or.inr ⟨.shutdown, rfl⟩
      · simp at stepped
  | pushNotify _ | pushSpurious _ | popNotify _ | popSpurious
  | shutdownNotifyEmpty _ | shutdownNotifyFull _ =>
      left
      simp only [queueThreadsMachine, pushNotify, pushSpurious, popNotify,
        popSpurious, shutdownNotifyEmpty, shutdownNotifyFull] at stepped
      repeat' split at stepped
      all_goals
        first
        | (simp only [Option.some.injEq] at stepped; subst after; rfl)
        | simp at stepped

/-- Under any interleaving of critical sections, sleeps and notifications the
queue only goes through states of the atomic queue. -/
theorem custody_reachable {state : QueueThreads ι κ ρ}
    (reachable : (queueThreadsMachine capacity policy).Reachable state) :
    (queueMachine capacity policy).Reachable state.custody := by
  have simulates :
      (queueThreadsMachine (ι := ι) (κ := κ) (ρ := ρ) capacity
        policy).Simulates Machine.Free (fun _ => True)
        (queueMachine capacity policy) Machine.Free custody := by
    intro before label after stepped _ _
    rcases step_refines stepped with same | ⟨op, stepped'⟩
    · exact ⟨[], same ▸ .nil⟩
    · exact ⟨[op], .single trivial stepped'⟩
  obtain ⟨labels, run⟩ := reachable
  exact run.simulate simulates (fun _ _ _ _ _ _ => trivial) trivial

end QueueThreads

end LogParse
