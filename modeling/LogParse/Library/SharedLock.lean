import Mathlib.Data.List.Basic

/-!
# A value behind a shared mutex

Any number of threads hold the mutex shared, or one thread holds it
exclusively and changes the value, in as many steps as it likes.  Each shared
holder is kept together with the value it found.
-/

namespace LogParse

universe u v

structure Guarded (ι : Type u) (V : Type v) where
  value : V
  readers : List (ι × V) := []
  writer : Option ι := none

namespace Guarded

variable {ι : Type u} {V : Type v}

def lockShared (guarded : Guarded ι V) (thread : ι) :
    Option (Guarded ι V) :=
  match guarded.writer with
  | none =>
      some { guarded with
        readers := (thread, guarded.value) :: guarded.readers }
  | some _ => none

def unlockShared [DecidableEq ι] (guarded : Guarded ι V) (thread : ι) :
    Guarded ι V :=
  { guarded with
    readers := guarded.readers.filter fun held => held.1 ≠ thread }

def lock (guarded : Guarded ι V) (thread : ι) : Option (Guarded ι V) :=
  match guarded.writer, guarded.readers with
  | none, [] => some { guarded with writer := some thread }
  | _, _ => none

/-- The exclusive holder changes the value. -/
def assign (guarded : Guarded ι V) (value : V) : Guarded ι V :=
  { guarded with value := value }

def unlock (guarded : Guarded ι V) : Guarded ι V :=
  { guarded with writer := none }

/-- Holders exclude each other, a shared holder still finds what it found, and
the value is consistent whenever nobody is changing it. -/
structure Sound (consistent : V → Prop) (guarded : Guarded ι V) : Prop where
  exclusive : guarded.writer ≠ none → guarded.readers = []
  stable : ∀ held ∈ guarded.readers, held.2 = guarded.value
  consistent : guarded.writer = none → consistent guarded.value

variable {consistent : V → Prop} {guarded after : Guarded ι V} {thread : ι}

theorem lockShared_eq_some
    (locked : guarded.lockShared thread = some after) :
    guarded.writer = none ∧
      after = { guarded with
        readers := (thread, guarded.value) :: guarded.readers } := by
  simp only [lockShared] at locked
  split at locked
  · rename_i free
    exact ⟨free, (Option.some.inj locked).symm⟩
  · cases locked

theorem lock_eq_some (locked : guarded.lock thread = some after) :
    guarded.writer = none ∧ guarded.readers = [] ∧
      after = { guarded with writer := some thread } := by
  simp only [lock] at locked
  split at locked
  · rename_i free nobody
    exact ⟨free, nobody, (Option.some.inj locked).symm⟩
  · cases locked

theorem mem_unlockShared [DecidableEq ι] {held : ι × V} :
    held ∈ (guarded.unlockShared thread).readers ↔
      held ∈ guarded.readers ∧ held.1 ≠ thread := by
  simp [unlockShared]

namespace Sound

theorem make {value : V} (initially : consistent value) :
    Sound consistent ({ value := value } : Guarded ι V) where
  exclusive writing := absurd rfl writing
  stable := by simp
  consistent _ := initially

theorem lockShared (sound : guarded.Sound consistent)
    (locked : guarded.lockShared thread = some after) :
    after.Sound consistent := by
  obtain ⟨free, rfl⟩ := lockShared_eq_some locked
  refine ⟨fun writing => absurd free writing, ?_, sound.consistent⟩
  intro held member
  rcases List.mem_cons.mp member with rfl | earlier
  · rfl
  · exact sound.stable held earlier

theorem unlockShared [DecidableEq ι] (sound : guarded.Sound consistent) :
    (guarded.unlockShared thread).Sound consistent where
  exclusive writing := by
    simp only [Guarded.unlockShared, sound.exclusive writing,
      List.filter_nil]
  stable held member := sound.stable held (mem_unlockShared.mp member).1
  consistent := sound.consistent

theorem lock (sound : guarded.Sound consistent)
    (locked : guarded.lock thread = some after) :
    after.Sound consistent := by
  obtain ⟨_, nobody, rfl⟩ := lock_eq_some locked
  exact ⟨fun _ => nobody, sound.stable, by simp⟩

/-- While somebody holds the mutex exclusively, nobody else can tell. -/
theorem assign (sound : guarded.Sound consistent)
    (writing : guarded.writer = some thread) (value : V) :
    (guarded.assign value).Sound consistent := by
  have nobody := sound.exclusive (by simp [writing])
  refine ⟨fun _ => nobody, ?_, ?_⟩
  · intro held member
    simp [Guarded.assign, nobody] at member
  · intro free
    simp [Guarded.assign, writing] at free

theorem unlock {restored : V → Prop} (sound : guarded.Sound consistent)
    (done : restored guarded.value) : guarded.unlock.Sound restored where
  exclusive free := absurd rfl free
  stable := sound.stable
  consistent _ := done

/-- What a shared holder found is still there, and consistent. -/
theorem held (sound : guarded.Sound consistent) {found : V}
    (member : (thread, found) ∈ guarded.readers) :
    found = guarded.value ∧ guarded.writer = none ∧
      consistent guarded.value := by
  have free : guarded.writer = none := by
    by_contra writing
    rw [sound.exclusive writing] at member
    cases member
  exact ⟨sound.stable _ member, free, sound.consistent free⟩

end Sound

/-- A thread that holds the mutex before a step of another one holds it
afterwards, in the same way and with the same value. -/
structure SameFor (thread : ι) (before after : Guarded ι V) : Prop where
  readers : ∀ found,
    (thread, found) ∈ after.readers ↔ (thread, found) ∈ before.readers
  writer : after.writer = some thread ↔ before.writer = some thread
  value : before.writer = some thread → after.value = before.value

variable {other : ι}

theorem SameFor.refl (guarded : Guarded ι V) :
    SameFor thread guarded guarded :=
  ⟨fun _ => Iff.rfl, Iff.rfl, fun _ => rfl⟩

theorem SameFor.lockShared (different : other ≠ thread)
    (locked : guarded.lockShared thread = some after) :
    SameFor other guarded after := by
  obtain ⟨_, rfl⟩ := lockShared_eq_some locked
  refine ⟨?_, Iff.rfl, fun _ => rfl⟩
  intro found
  simp [different]

theorem SameFor.unlockShared [DecidableEq ι] (different : other ≠ thread) :
    SameFor other guarded (guarded.unlockShared thread) := by
  refine ⟨?_, Iff.rfl, fun _ => rfl⟩
  intro found
  rw [mem_unlockShared]
  simp [different]

theorem SameFor.lock (different : other ≠ thread)
    (locked : guarded.lock thread = some after) :
    SameFor other guarded after := by
  obtain ⟨free, _, rfl⟩ := lock_eq_some locked
  refine ⟨fun _ => Iff.rfl, ?_, fun _ => rfl⟩
  simp [free, different.symm]

theorem SameFor.assign (different : other ≠ thread)
    (writing : guarded.writer = some thread) (value : V) :
    SameFor other guarded (guarded.assign value) := by
  refine ⟨fun _ => Iff.rfl, Iff.rfl, ?_⟩
  intro mine
  exact absurd (Option.some.inj (mine.symm.trans writing)) different

theorem SameFor.unlock (different : other ≠ thread)
    (writing : guarded.writer = some thread) :
    SameFor other guarded guarded.unlock := by
  refine ⟨fun _ => Iff.rfl, ?_, fun _ => rfl⟩
  simp [Guarded.unlock, writing, different.symm]

theorem SameFor.trans {middle : Guarded ι V}
    (first : SameFor thread guarded middle)
    (second : SameFor thread middle after) :
    SameFor thread guarded after := by
  refine ⟨?_, second.writer.trans first.writer, ?_⟩
  · intro found
    exact (second.readers found).trans (first.readers found)
  · intro writing
    exact (second.value (first.writer.mpr writing)).trans
      (first.value writing)

end Guarded

end LogParse
