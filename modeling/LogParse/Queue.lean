import LogParse.Config
import LogParse.Library.Ring

/-!
# The bounded queue

`push` and `pop` are the critical sections of their C++ counterparts from the
moment the condition variable lets the caller go on; `pushReady` and
`popReady` are the predicates it waits for.  The queue never looks into the
records it moves, so their type is a parameter.

A `Fault` is an operation that must not happen: a remainder by zero or an
index outside `m_buffer`, both undefined in C++, or a size that leaves the
range from zero to the capacity.
-/

namespace LogParse

inductive Fault where
  | remainderByZero
  | indexOutOfRange
  | sizeUnderflow
  | sizeOverflow
  deriving DecidableEq, Repr

structure Queue (ρ : Type) where
  mBuffer : List ρ
  mHead : Nat := 0
  mTail : Nat := 0
  mSize : Nat := 0
  mCapacity : Nat
  mPolicy : OverflowPolicy
  mShutdown : Bool := false
  deriving DecidableEq, Repr

/-- C++ `value % divisor`. -/
def remainder (value divisor : Nat) : Except Fault Nat :=
  if divisor = 0 then throw .remainderByZero else pure (value % divisor)

namespace Queue

variable {ρ : Type}

/-- The constructor: `m_buffer(capacity), m_capacity{capacity},
m_policy{policy}`. -/
def make [Inhabited ρ] (capacity : Nat) (policy : OverflowPolicy) : Queue ρ :=
  { mBuffer := List.replicate capacity default
    mCapacity := capacity
    mPolicy := policy }

/-- The predicate `push` waits for; only `Block` waits on `m_not_full`. -/
def pushReady (queue : Queue ρ) : Bool :=
  match queue.mPolicy with
  | .block => queue.mSize < queue.mCapacity || queue.mShutdown
  | .dropNewest | .dropOldest | .discard => true

/-- The predicate `pop` waits for on `m_not_empty`. -/
def popReady (queue : Queue ρ) : Bool :=
  0 < queue.mSize || queue.mShutdown

/-- `m_buffer[m_tail] = std::move(record)`. -/
def storeTail (queue : Queue ρ) (record : ρ) : Except Fault (Queue ρ) :=
  if queue.mTail < queue.mBuffer.length then
    pure { queue with mBuffer := queue.mBuffer.set queue.mTail record }
  else throw .indexOutOfRange

/-- `m_buffer[m_head]`, read by `pop`. -/
def loadHead (queue : Queue ρ) : Except Fault ρ :=
  match queue.mBuffer[queue.mHead]? with
  | some record => pure record
  | none => throw .indexOutOfRange

/-- `m_head = (m_head + 1) % m_capacity`. -/
def advanceHead (queue : Queue ρ) : Except Fault (Queue ρ) := do
  let head ← remainder (queue.mHead + 1) queue.mCapacity
  pure { queue with mHead := head }

/-- `m_tail = (m_tail + 1) % m_capacity`. -/
def advanceTail (queue : Queue ρ) : Except Fault (Queue ρ) := do
  let tail ← remainder (queue.mTail + 1) queue.mCapacity
  pure { queue with mTail := tail }

/-- `--m_size`. -/
def decrementSize (queue : Queue ρ) : Except Fault (Queue ρ) :=
  if queue.mSize = 0 then throw .sizeUnderflow
  else pure { queue with mSize := queue.mSize - 1 }

/-- `++m_size`. -/
def incrementSize (queue : Queue ρ) : Except Fault (Queue ρ) :=
  if queue.mCapacity ≤ queue.mSize then throw .sizeOverflow
  else pure { queue with mSize := queue.mSize + 1 }

/-- What every accepting branch of `push` does after the `switch`. -/
def enqueue (queue : Queue ρ) (record : ρ) :
    Except Fault (Bool × Queue ρ) := do
  let queue ← queue.storeTail record
  let queue ← queue.advanceTail
  let queue ← queue.incrementSize
  pure (true, queue)

def push (queue : Queue ρ) (record : ρ) : Except Fault (Bool × Queue ρ) :=
  match queue.mPolicy with
  | .block =>
      if queue.mShutdown then pure (false, queue) else queue.enqueue record
  | .dropNewest =>
      if queue.mSize = queue.mCapacity then pure (false, queue)
      else queue.enqueue record
  | .dropOldest =>
      if queue.mSize = queue.mCapacity then do
        let queue ← queue.advanceHead
        let queue ← queue.decrementSize
        queue.enqueue record
      else queue.enqueue record
  | .discard =>
      if queue.mSize = queue.mCapacity then pure (false, queue)
      else queue.enqueue record

/-- `none` is the `false` of C++.  The moved-from record stays in its slot,
which no operation reads again before it is overwritten. -/
def pop (queue : Queue ρ) : Except Fault (Option ρ × Queue ρ) :=
  if queue.mSize = 0 then pure (none, queue)
  else do
    let record ← queue.loadHead
    let queue ← queue.advanceHead
    let queue ← queue.decrementSize
    pure (some record, queue)

def shutdown (queue : Queue ρ) : Queue ρ := { queue with mShutdown := true }

/-- The `m_size` slots read cyclically from `m_head`. -/
def contents (queue : Queue ρ) : List ρ :=
  Ring.window queue.mBuffer queue.mHead queue.mSize

/-- What the next accepting `push` evicts. -/
def evicts (queue : Queue ρ) : Option ρ :=
  match queue.mPolicy with
  | .dropOldest =>
      if queue.mSize = queue.mCapacity then queue.contents.head? else none
  | .block | .dropNewest | .discard => none

/-- What stays in the queue when the next accepting `push` has evicted. -/
def kept (queue : Queue ρ) : List ρ :=
  match queue.mPolicy with
  | .dropOldest =>
      if queue.mSize = queue.mCapacity then queue.contents.tail
      else queue.contents
  | .block | .dropNewest | .discard => queue.contents

/-- Whether `push` accepts a record, once it has stopped waiting. -/
def accepts (queue : Queue ρ) : Bool :=
  match queue.mPolicy with
  | .block => !queue.mShutdown
  | .dropOldest => true
  | .dropNewest | .discard => queue.mSize ≠ queue.mCapacity

/-- The queue that moves the images of the records. -/
def map {σ : Type} (relabel : ρ → σ) (queue : Queue ρ) : Queue σ :=
  { queue with mBuffer := queue.mBuffer.map relabel }

section Parametricity

variable {σ : Type} (relabel : ρ → σ) (queue : Queue ρ)

theorem map_make [Inhabited ρ] [Inhabited σ]
    (preserved : relabel default = default) (capacity : Nat)
    (policy : OverflowPolicy) :
    (Queue.make capacity policy : Queue ρ).map relabel =
      Queue.make capacity policy := by
  simp [map, make, preserved]

theorem map_storeTail (record : ρ) :
    (queue.map relabel).storeTail (relabel record) =
      (queue.storeTail record).map (map relabel) := by
  simp only [storeTail, map, List.length_map]
  by_cases inside : queue.mTail < queue.mBuffer.length
  · simp only [inside, if_true, ← List.map_set]
    rfl
  · simp only [inside, if_false]
    rfl

theorem map_advanceTail :
    (queue.map relabel).advanceTail =
      queue.advanceTail.map (map relabel) := by
  simp only [advanceTail, map]
  cases remainder (queue.mTail + 1) queue.mCapacity <;> rfl

theorem map_incrementSize :
    (queue.map relabel).incrementSize =
      queue.incrementSize.map (map relabel) := by
  have sizeSame : (queue.map relabel).mSize = queue.mSize := rfl
  have capacitySame : (queue.map relabel).mCapacity = queue.mCapacity := rfl
  simp only [incrementSize, sizeSame, capacitySame]
  by_cases full : queue.mCapacity ≤ queue.mSize
  · simp only [full, if_true]
    rfl
  · simp only [full, if_false]
    rfl

theorem map_enqueue (record : ρ) :
    (queue.map relabel).enqueue (relabel record) =
      (queue.enqueue record).map (Prod.map id (map relabel)) := by
  simp only [enqueue, map_storeTail]
  cases queue.storeTail record with
  | error fault => rfl
  | ok stored =>
      change (stored.map relabel).advanceTail >>= _ =
        (stored.advanceTail >>= _).map _
      rw [map_advanceTail]
      cases stored.advanceTail with
      | error fault => rfl
      | ok advanced =>
          change (advanced.map relabel).incrementSize >>= _ =
            (advanced.incrementSize >>= _).map _
          rw [map_incrementSize]
          cases advanced.incrementSize <;> rfl

theorem map_advanceHead :
    (queue.map relabel).advanceHead =
      queue.advanceHead.map (map relabel) := by
  simp only [advanceHead, map]
  cases remainder (queue.mHead + 1) queue.mCapacity <;> rfl

theorem map_decrementSize :
    (queue.map relabel).decrementSize =
      queue.decrementSize.map (map relabel) := by
  have sizeSame : (queue.map relabel).mSize = queue.mSize := rfl
  simp only [decrementSize, sizeSame]
  by_cases empty : queue.mSize = 0
  · simp only [empty, if_true]
    rfl
  · simp only [empty, if_false]
    rfl

/-- `push` moves records without looking into them. -/
theorem map_push (record : ρ) :
    (queue.map relabel).push (relabel record) =
      (queue.push record).map (Prod.map id (map relabel)) := by
  have enqueues := map_enqueue relabel queue record
  have policySame : (queue.map relabel).mPolicy = queue.mPolicy := rfl
  have sizeSame : (queue.map relabel).mSize = queue.mSize := rfl
  have capacitySame : (queue.map relabel).mCapacity = queue.mCapacity := rfl
  have shutdownSame : (queue.map relabel).mShutdown = queue.mShutdown := rfl
  simp only [push, policySame, sizeSame, capacitySame, shutdownSame, enqueues]
  cases queue.mPolicy with
  | block =>
      cases queue.mShutdown <;> rfl
  | dropNewest | discard =>
      by_cases full : queue.mSize = queue.mCapacity
      · simp only [full, if_true]
        rfl
      · simp only [full, if_false]
  | dropOldest =>
      by_cases full : queue.mSize = queue.mCapacity
      · simp only [full, if_true, map_advanceHead]
        cases queue.advanceHead with
        | error fault => rfl
        | ok advanced =>
            change (advanced.map relabel).decrementSize >>= _ =
              (advanced.decrementSize >>= _).map _
            rw [map_decrementSize]
            cases advanced.decrementSize with
            | error fault => rfl
            | ok shortened => exact map_enqueue relabel shortened record
      · simp only [full, if_false]

theorem map_pop :
    (queue.map relabel).pop =
      queue.pop.map (Prod.map (Option.map relabel) (map relabel)) := by
  have loads : (queue.map relabel).loadHead = queue.loadHead.map relabel := by
    simp only [loadHead, map, List.getElem?_map]
    cases queue.mBuffer[queue.mHead]? <;> rfl
  have sizeSame : (queue.map relabel).mSize = queue.mSize := rfl
  simp only [pop, sizeSame, loads, map_advanceHead]
  by_cases empty : queue.mSize = 0
  · simp only [empty, if_true]
    rfl
  · simp only [empty, if_false]
    cases queue.loadHead with
    | error fault => rfl
    | ok record =>
        cases queue.advanceHead with
        | error fault => rfl
        | ok advanced =>
            change (advanced.map relabel).decrementSize >>= _ =
              (advanced.decrementSize >>= _).map _
            rw [map_decrementSize]
            cases advanced.decrementSize <;> rfl

end Parametricity

structure WellFormed (queue : Queue ρ) : Prop where
  length_buffer : queue.mBuffer.length = queue.mCapacity
  head_lt : queue.mHead < queue.mCapacity
  size_le : queue.mSize ≤ queue.mCapacity
  tail_eq : queue.mTail = (queue.mHead + queue.mSize) % queue.mCapacity

/-- What no operation on the queue changes. -/
structure SameShape (before after : Queue ρ) : Prop where
  capacity : after.mCapacity = before.mCapacity
  policy : after.mPolicy = before.mPolicy

/-- What `push` does on a well-formed queue once it has stopped waiting. -/
structure Pushed (queue : Queue ρ) (record : ρ) (after : Queue ρ) :
    Prop where
  result : queue.push record = .ok (queue.accepts, after)
  formed : after.WellFormed
  shape : queue.SameShape after
  shutdown_eq : after.mShutdown = queue.mShutdown
  appended : queue.accepts = true → after.contents = queue.kept ++ [record]
  refused : queue.accepts = false → after = queue

namespace WellFormed

variable {queue : Queue ρ}

theorem make [Inhabited ρ] {capacity : Nat} (policy : OverflowPolicy)
    (positive : 0 < capacity) :
    (Queue.make capacity policy : Queue ρ).WellFormed where
  length_buffer := List.length_replicate
  head_lt := positive
  size_le := Nat.zero_le _
  tail_eq := (Nat.zero_mod capacity).symm

theorem capacity_pos (formed : queue.WellFormed) : 0 < queue.mCapacity :=
  Nat.zero_lt_of_lt formed.head_lt

theorem length_contents (formed : queue.WellFormed) :
    queue.contents.length = queue.mSize := by
  apply Ring.length_window
  rw [formed.length_buffer]
  exact formed.capacity_pos

theorem contents_eq_nil_iff (formed : queue.WellFormed) :
    queue.contents = [] ↔ queue.mSize = 0 := by
  rw [← List.length_eq_zero_iff, formed.length_contents]

theorem shutdown (formed : queue.WellFormed) : queue.shutdown.WellFormed :=
  ⟨formed.length_buffer, formed.head_lt, formed.size_le, formed.tail_eq⟩

/-- With room, `enqueue` appends. -/
theorem enqueue_spec (formed : queue.WellFormed)
    (room : queue.mSize < queue.mCapacity) (record : ρ) :
    ∃ after, queue.enqueue record = .ok (true, after) ∧ after.WellFormed ∧
      queue.SameShape after ∧ after.mShutdown = queue.mShutdown ∧
      after.contents = queue.contents ++ [record] := by
  have positive := formed.capacity_pos
  have tailInside : queue.mTail < queue.mBuffer.length := by
    rw [formed.length_buffer, formed.tail_eq]
    exact Nat.mod_lt _ positive
  have capacityNe : queue.mCapacity ≠ 0 := Nat.pos_iff_ne_zero.mp positive
  refine ⟨{ queue with
      mBuffer := queue.mBuffer.set queue.mTail record
      mTail := (queue.mTail + 1) % queue.mCapacity
      mSize := queue.mSize + 1 }, ?_, ?_, ⟨rfl, rfl⟩, rfl, ?_⟩
  · simp [enqueue, storeTail, tailInside, advanceTail, remainder, capacityNe,
      incrementSize, Nat.not_le.mpr room, bind, Except.bind, pure,
      Except.pure]
  · refine ⟨?_, formed.head_lt, room, ?_⟩
    · simpa using formed.length_buffer
    · change (queue.mTail + 1) % queue.mCapacity = _
      rw [formed.tail_eq, Nat.mod_add_mod, Nat.add_assoc]
  · have roomInBuffer : queue.mSize < queue.mBuffer.length := by
      rw [formed.length_buffer]
      exact room
    have appended := Ring.window_set_end roomInBuffer queue.mHead record
    rw [formed.length_buffer, ← formed.tail_eq] at appended
    exact appended

/-- A nonempty queue loads its front and lets go of it. -/
theorem front_spec (formed : queue.WellFormed) (nonempty : queue.mSize ≠ 0) :
    ∃ front rest after, queue.contents = front :: rest ∧
      queue.loadHead = .ok front ∧
      (queue.advanceHead >>= decrementSize) = .ok after ∧
      after.WellFormed ∧ queue.SameShape after ∧
      after.mShutdown = queue.mShutdown ∧
      after.mSize + 1 = queue.mSize ∧ after.contents = rest := by
  have positive := formed.capacity_pos
  have capacityNe : queue.mCapacity ≠ 0 := Nat.pos_iff_ne_zero.mp positive
  have inBuffer : 0 < queue.mBuffer.length := by
    rw [formed.length_buffer]
    exact positive
  obtain ⟨size, sizeEq⟩ := Nat.exists_eq_succ_of_ne_zero nonempty
  obtain ⟨front, found⟩ := Ring.slot_exists inBuffer queue.mHead
  have headInside : queue.mHead % queue.mBuffer.length = queue.mHead := by
    rw [formed.length_buffer]
    exact Nat.mod_eq_of_lt formed.head_lt
  refine ⟨front, Ring.window queue.mBuffer (queue.mHead + 1) size,
    { queue with
      mHead := (queue.mHead + 1) % queue.mCapacity
      mSize := queue.mSize - 1 }, ?_, ?_, ?_, ?_, ⟨rfl, rfl⟩, rfl, ?_, ?_⟩
  · rw [contents, sizeEq]
    exact Ring.window_succ size found
  · rw [headInside] at found
    simp [loadHead, found, pure, Except.pure]
  · simp [advanceHead, remainder, capacityNe, decrementSize, nonempty, bind,
      Except.bind, pure, Except.pure]
  · refine ⟨formed.length_buffer, Nat.mod_lt _ positive, ?_, ?_⟩
    · exact Nat.le_trans (Nat.sub_le _ _) formed.size_le
    · change queue.mTail = ((queue.mHead + 1) % queue.mCapacity +
        (queue.mSize - 1)) % queue.mCapacity
      rw [Nat.mod_add_mod, formed.tail_eq]
      congr 1
      omega
  · change queue.mSize - 1 + 1 = queue.mSize
    omega
  · change Ring.window queue.mBuffer ((queue.mHead + 1) % queue.mCapacity)
      (queue.mSize - 1) = _
    rw [← formed.length_buffer, Ring.window_mod, sizeEq]
    rfl

theorem evicts_append_kept (queue : Queue ρ) :
    queue.evicts.toList ++ queue.kept = queue.contents := by
  unfold evicts kept
  cases queue.mPolicy with
  | block | dropNewest | discard => rfl
  | dropOldest =>
      by_cases full : queue.mSize = queue.mCapacity
      · simp only [full, if_true]
        cases queue.contents <;> rfl
      · simp [full]

theorem kept_eq (formed : queue.WellFormed) :
    queue.kept =
      if queue.mPolicy = .dropOldest ∧
          queue.contents.length = queue.mCapacity then
        queue.contents.tail
      else queue.contents := by
  rw [formed.length_contents]
  unfold kept
  cases queue.mPolicy <;> simp

theorem kept_of_room (room : queue.mSize ≠ queue.mCapacity) :
    queue.kept = queue.contents := by
  unfold kept
  cases queue.mPolicy <;> simp [room]

theorem refuse (formed : queue.WellFormed) {record : ρ}
    (refusing : queue.accepts = false)
    (unchanged : queue.push record = .ok (false, queue)) :
    queue.Pushed record queue where
  result := by rw [unchanged, refusing]
  formed := formed
  shape := ⟨rfl, rfl⟩
  shutdown_eq := rfl
  appended := by simp [refusing]
  refused _ := rfl

theorem append (formed : queue.WellFormed) {record : ρ}
    (notFull : queue.mSize ≠ queue.mCapacity)
    (accepting : queue.accepts = true)
    (enqueues : queue.push record = queue.enqueue record) :
    ∃ after, queue.Pushed record after := by
  have room : queue.mSize < queue.mCapacity :=
    Nat.lt_of_le_of_ne formed.size_le notFull
  obtain ⟨after, enqueued, afterFormed, shape, shutdownSame, appended⟩ :=
    formed.enqueue_spec room record
  exact ⟨after,
    { result := by rw [enqueues, enqueued, accepting]
      formed := afterFormed
      shape := shape
      shutdown_eq := shutdownSame
      appended := fun _ => by rw [kept_of_room notFull, appended]
      refused := by simp [accepting] }⟩

/-- The `DropOldest` branch on a full queue: the front goes, the record is
appended. -/
theorem replace (formed : queue.WellFormed) (record : ρ)
    (policy : queue.mPolicy = .dropOldest)
    (full : queue.mSize = queue.mCapacity) :
    ∃ after, queue.Pushed record after := by
  have accepting : queue.accepts = true := by simp [accepts, policy]
  have nonempty : queue.mSize ≠ 0 := by
    rw [full]
    exact Nat.pos_iff_ne_zero.mp formed.capacity_pos
  obtain ⟨front, rest, shortened, contentsEq, _, evicted, shortenedFormed,
      shape, shutdownSame, sizeEq, restEq⟩ := formed.front_spec nonempty
  have room : shortened.mSize < shortened.mCapacity := by
    rw [shape.capacity]
    have bound := formed.size_le
    omega
  obtain ⟨after, enqueued, afterFormed, shape', shutdownSame', appended⟩ :=
    shortenedFormed.enqueue_spec room record
  have pushed : queue.push record =
      (queue.advanceHead >>= decrementSize) >>=
        fun shortened => shortened.enqueue record := by
    simp [push, policy, full]
  have keptEq : queue.kept = rest := by
    simp [kept, policy, full, contentsEq]
  exact ⟨after,
    { result := by
        rw [pushed, evicted, accepting]
        exact enqueued
      formed := afterFormed
      shape := ⟨shape'.capacity.trans shape.capacity,
        shape'.policy.trans shape.policy⟩
      shutdown_eq := shutdownSame'.trans shutdownSame
      appended := fun _ => by rw [appended, restEq, keptEq]
      refused := by simp [accepting] }⟩

/-- A `push` that has stopped waiting returns without a fault.  It appends
after evicting, or it refuses and changes nothing. -/
theorem push_spec (formed : queue.WellFormed)
    (ready : queue.pushReady = true) (record : ρ) :
    ∃ after, queue.Pushed record after := by
  cases policy : queue.mPolicy with
  | block =>
      by_cases stopped : queue.mShutdown = true
      · exact ⟨queue, formed.refuse (by simp [accepts, policy, stopped])
          (by simp [push, policy, stopped, pure, Except.pure])⟩
      · have room : queue.mSize < queue.mCapacity := by
          simpa [pushReady, policy, stopped] using ready
        exact formed.append (Nat.ne_of_lt room)
          (by simp [accepts, policy, stopped])
          (by simp [push, policy, stopped])
  | dropNewest | discard =>
      by_cases full : queue.mSize = queue.mCapacity
      · exact ⟨queue, formed.refuse (by simp [accepts, policy, full])
          (by simp [push, policy, full, pure, Except.pure])⟩
      · exact formed.append full (by simp [accepts, policy, full])
          (by simp [push, policy, full])
  | dropOldest =>
      by_cases full : queue.mSize = queue.mCapacity
      · exact formed.replace record policy full
      · exact formed.append full (by simp [accepts, policy])
          (by simp [push, policy, full])

/-- `pop` on an empty queue answers `false` and changes nothing. -/
theorem pop_empty (formed : queue.WellFormed) (empty : queue.contents = []) :
    queue.pop = .ok (none, queue) := by
  have sizeZero := formed.contents_eq_nil_iff.mp empty
  simp [pop, sizeZero, pure, Except.pure]

/-- `pop` on a nonempty queue yields its first record and removes it. -/
theorem pop_cons (formed : queue.WellFormed) {front : ρ} {rest : List ρ}
    (nonempty : queue.contents = front :: rest) :
    ∃ after, queue.pop = .ok (some front, after) ∧ after.WellFormed ∧
      queue.SameShape after ∧ after.mShutdown = queue.mShutdown ∧
      after.contents = rest := by
  have sizeNe : queue.mSize ≠ 0 := by
    intro sizeZero
    rw [formed.contents_eq_nil_iff.mpr sizeZero] at nonempty
    simp at nonempty
  obtain ⟨front', rest', after, contentsEq, loaded, removed, afterFormed,
      shape, shutdownSame, _, restEq⟩ := formed.front_spec sizeNe
  rw [nonempty] at contentsEq
  obtain ⟨rfl, rfl⟩ := List.cons.inj contentsEq
  refine ⟨after, ?_, afterFormed, shape, shutdownSame, restEq⟩
  have unfolded : queue.pop =
      (queue.advanceHead >>= decrementSize) >>=
        fun after => pure (some front, after) := by
    rw [pop, if_neg sizeNe, loaded, bind_assoc]
    rfl
  rw [unfolded, removed]
  rfl

end WellFormed

end Queue

end LogParse
