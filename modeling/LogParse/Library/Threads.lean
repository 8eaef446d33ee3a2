import Mathlib.Data.Fintype.Card
import Mathlib.Data.Fintype.Basic
import Mathlib.Algebra.Order.Group.Nat

/-!
# Counting threads

A finite family of threads is a function from their names to where each of
them stands.  `census` counts the threads that stand somewhere; one thread's
move changes it by the mover alone.
-/

namespace LogParse

section Census

variable {ι : Type*} {P : Type*} [Fintype ι]

def census (stands : P → Bool) (threads : ι → P) : Nat :=
  (Finset.univ.filter fun thread => stands (threads thread) = true).card

theorem census_eq_zero {stands : P → Bool} {threads : ι → P}
    (nobody : ∀ thread, stands (threads thread) = false) :
    census stands threads = 0 := by
  simp [census, nobody]

theorem census_le_card (stands : P → Bool) (threads : ι → P) :
    census stands threads ≤ Fintype.card ι :=
  Finset.card_le_univ _

/-- All threads may move at once, as long as each still stands there or still
does not. -/
theorem census_congr {stands : P → Bool} {threads threads' : ι → P}
    (same : ∀ thread, stands (threads' thread) = stands (threads thread)) :
    census stands threads' = census stands threads := by
  simp only [census, same]

variable [DecidableEq ι]

/-- The law of one thread's move. -/
theorem census_update (stands : P → Bool) (threads : ι → P) (mover : ι)
    (place : P) :
    census stands (Function.update threads mover place) +
        (if stands (threads mover) then 1 else 0) =
      census stands threads + (if stands place then 1 else 0) := by
  have others :
      ((Finset.univ.erase mover).filter fun thread =>
        stands (Function.update threads mover place thread) = true) =
      (Finset.univ.erase mover).filter fun thread =>
        stands (threads thread) = true := by
    apply Finset.filter_congr
    intro thread member
    rw [Function.update_of_ne (Finset.ne_of_mem_erase member)]
  have split (family : ι → P) :
      census stands family =
        ((Finset.univ.erase mover).filter fun thread =>
          stands (family thread) = true).card +
          (if stands (family mover) then 1 else 0) := by
    rw [census, ← Finset.insert_erase (Finset.mem_univ mover),
      Finset.filter_insert]
    by_cases there : stands (family mover) = true
    · rw [if_pos there, if_pos there, Finset.card_insert_of_notMem (by simp)]
      simp
    · rw [if_neg there, if_neg there]
      simp
  rw [split, split threads, others, Function.update_self]
  omega

theorem census_update_enter {stands : P → Bool} {threads : ι → P}
    {mover : ι} (place : P) (absent : stands (threads mover) = false)
    (there : stands place = true) :
    census stands (Function.update threads mover place) =
      census stands threads + 1 := by
  have moved := census_update stands threads mover place
  simpa [absent, there] using moved

theorem census_update_leave {stands : P → Bool} {threads : ι → P}
    {mover : ι} {place : P} (there : stands (threads mover) = true)
    (gone : stands place = false) :
    census stands (Function.update threads mover place) + 1 =
      census stands threads := by
  have moved := census_update stands threads mover place
  simpa [there, gone] using moved

theorem census_update_same {stands : P → Bool} {threads : ι → P}
    {mover : ι} {place : P}
    (same : stands place = stands (threads mover)) :
    census stands (Function.update threads mover place) =
      census stands threads := by
  have moved := census_update stands threads mover place
  rw [same] at moved
  omega

end Census

end LogParse
