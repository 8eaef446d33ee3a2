import Mathlib.Data.Nat.ModEq
import Mathlib.Data.List.Basic

/-!
# Cyclic windows of a list

`window slots head count` reads `count` slots one after the other, starting
at `head` and continuing at the first slot after the last one.  Dropping the
first element of a window moves its start by one; writing the slot just after
it and counting one more appends an element.
-/

namespace LogParse

namespace Ring

variable {α : Type*}

def window (slots : List α) (head : Nat) : Nat → List α
  | 0 => []
  | count + 1 =>
      slots[head % slots.length]?.toList ++ window slots (head + 1) count

@[simp] theorem window_zero (slots : List α) (head : Nat) :
    window slots head 0 = [] := rfl

theorem slot_exists {slots : List α} (nonempty : 0 < slots.length)
    (position : Nat) :
    ∃ item, slots[position % slots.length]? = some item :=
  ⟨_, List.getElem?_eq_getElem (Nat.mod_lt position nonempty)⟩

theorem length_window {slots : List α} (nonempty : 0 < slots.length)
    (head count : Nat) : (window slots head count).length = count := by
  induction count generalizing head with
  | zero => rfl
  | succ count induction =>
      obtain ⟨item, found⟩ := slot_exists nonempty head
      simp only [window, found, Option.toList_some, List.cons_append,
        List.nil_append, List.length_cons, induction]

/-- A nonempty window starts with the slot at its head. -/
theorem window_succ {slots : List α} {item : α} {head : Nat} (count : Nat)
    (found : slots[head % slots.length]? = some item) :
    window slots head (count + 1) = item :: window slots (head + 1) count := by
  simp [window, found]

/-- A nonempty window ends with the slot `count` places after its head. -/
theorem window_snoc (slots : List α) (head count : Nat) :
    window slots head (count + 1) =
      window slots head count ++
        slots[(head + count) % slots.length]?.toList := by
  induction count generalizing head with
  | zero => simp [window]
  | succ count induction =>
      have reordered : head + 1 + count = head + (count + 1) := by omega
      rw [window, induction (head + 1), reordered, window, List.append_assoc]

/-- Only the position of the head in the cycle matters. -/
theorem window_mod (slots : List α) (head count : Nat) :
    window slots (head % slots.length) count = window slots head count := by
  induction count generalizing head with
  | zero => rfl
  | succ count induction =>
      have shifted : window slots (head % slots.length + 1) count =
          window slots (head + 1) count := by
        rw [← induction (head % slots.length + 1), ← induction (head + 1),
          Nat.mod_add_mod]
      simp only [window, Nat.mod_mod, shifted]

/-- Inside one cycle, different distances from the head name different
slots. -/
theorem position_ne {length : Nat} (head : Nat) {near far : Nat}
    (nearer : near < far) (within : far < length) :
    (head + near) % length ≠ (head + far) % length := by
  intro equal
  have congruent : near ≡ far [MOD length] :=
    Nat.ModEq.add_left_cancel' head equal
  have same : near = far :=
    congruent.eq_of_lt_of_lt (nearer.trans within) within
  omega

/-- Writing a slot outside the window does not show in it. -/
theorem window_set_outside {slots : List α} (head : Nat) {count target : Nat}
    (item : α)
    (outside : ∀ distance, distance < count →
      (head + distance) % slots.length ≠ target) :
    window (slots.set target item) head count = window slots head count := by
  induction count generalizing head with
  | zero => rfl
  | succ count induction =>
      have first : head % slots.length ≠ target := by
        simpa using outside 0 (Nat.succ_pos count)
      have rest : window (slots.set target item) (head + 1) count =
          window slots (head + 1) count := by
        apply induction
        intro distance bound
        have shifted := outside (distance + 1) (Nat.succ_lt_succ bound)
        rwa [← Nat.add_assoc, Nat.add_right_comm] at shifted
      simp [window, List.getElem?_set_ne (Ne.symm first), rest]

/-- Filling the first slot after a window that leaves room appends. -/
theorem window_set_end {slots : List α} {count : Nat}
    (room : count < slots.length) (head : Nat) (item : α) :
    window (slots.set ((head + count) % slots.length) item) head (count + 1) =
      window slots head count ++ [item] := by
  have nonempty : 0 < slots.length := Nat.zero_lt_of_lt room
  let last := (head + count) % slots.length
  have kept : window (slots.set last item) head count =
      window slots head count := by
    apply window_set_outside head item
    intro distance nearer
    exact position_ne head nearer room
  rw [window_snoc, kept, List.length_set,
    List.getElem?_set_self (Nat.mod_lt _ nonempty)]
  rfl

end Ring

end LogParse
