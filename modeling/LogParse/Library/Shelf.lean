import Mathlib.Data.List.Basic
import Mathlib.Logic.Function.Basic

/-!
# Shelves

A shelf is a row of numbered slots with a list of items in each.  Items are
put at the end of slot zero, and a slot is moved on over the next one, whose
items are lost.  A shelf is read from its last slot down to slot zero, so that
moving on never changes the order of what is left.
-/

namespace LogParse

abbrev Shelf (α : Type*) := Nat → List α

namespace Shelf

variable {α : Type*} {shelf other : Shelf α} {index count : Nat}

def read (shelf : Shelf α) : Nat → List α
  | 0 => shelf 0
  | count + 1 => shelf (count + 1) ++ read shelf count

def put (shelf : Shelf α) (item : α) : Shelf α :=
  Function.update shelf 0 (shelf 0 ++ [item])

/-- The slot is moved on to the next one and left empty. -/
def advance (shelf : Shelf α) (index : Nat) : Shelf α :=
  Function.update (Function.update shelf index []) (index + 1) (shelf index)

theorem read_congr (same : ∀ index ≤ count, shelf index = other index) :
    shelf.read count = other.read count := by
  induction count with
  | zero => exact same 0 (Nat.le_refl 0)
  | succ count induction =>
      rw [read, read, same (count + 1) (Nat.le_refl _),
        induction fun index within => same index (Nat.le_succ_of_le within)]

theorem read_update_of_lt (above : count < index) (items : List α) :
    read (Function.update shelf index items) count = shelf.read count := by
  apply read_congr
  intro other within
  exact Function.update_of_ne (by omega) _ _

theorem read_put (shelf : Shelf α) (item : α) (count : Nat) :
    (shelf.put item).read count = shelf.read count ++ [item] := by
  induction count with
  | zero => simp [read, put]
  | succ count induction => simp [read, put, ← induction]

/-- The last slot that is read comes first. -/
theorem read_vacate (shelf : Shelf α) (count : Nat) :
    shelf count ++ read (Function.update shelf count []) count =
      shelf.read count := by
  cases count with
  | zero => simp [read]
  | succ count =>
      simp [read, read_update_of_lt (Nat.lt_succ_self count)]

/-- Moving a slot on loses the items of the next slot and nothing else. -/
theorem read_advance_sublist (shelf : Shelf α) (below : index < count) :
    ((shelf.advance index).read count).Sublist (shelf.read count) := by
  induction count with
  | zero => exact absurd below (Nat.not_lt_zero index)
  | succ count induction =>
      rcases Nat.lt_succ_iff_lt_or_eq.mp below with lower | rfl
      · have kept : shelf.advance index (count + 1) = shelf (count + 1) := by
          rw [advance, Function.update_of_ne (by omega),
            Function.update_of_ne (by omega)]
        rw [read, read, kept]
        exact (List.Sublist.refl _).append (induction lower)
      · have moved : shelf.advance index (index + 1) = shelf index :=
          Function.update_self _ _ _
        have rest : (shelf.advance index).read index =
            read (Function.update shelf index []) index :=
          read_update_of_lt (Nat.lt_succ_self index) _
        rw [read, read, moved, rest, read_vacate]
        exact List.sublist_append_right _ _

end Shelf

end LogParse
