import Mathlib.Data.List.Basic

/-!
# The last update wins

A list of events updates a state one after the other.  A field of the state
that each event either overwrites or leaves alone ends up with the last value
it was given.
-/

namespace LogParse

section Updates

variable {State Event Value : Type*}

/-- The last value the events give, or the initial one if none gives any. -/
def lastGiven (given : Event → Option Value) (initial : Value)
    (events : List Event) : Value :=
  (events.filterMap given).getLastD initial

variable {given : Event → Option Value}

theorem lastGiven_cons (initial : Value) (event : Event)
    (events : List Event) :
    lastGiven given initial (event :: events) =
      lastGiven given ((given event).getD initial) events := by
  cases gives : given event with
  | none => simp only [lastGiven, List.filterMap_cons_none gives,
      Option.getD_none]
  | some value => simp only [lastGiven, List.filterMap_cons_some gives,
      List.getLastD_cons, Option.getD_some]

theorem lastGiven_eq_getD (initial : Value) (events : List Event) :
    lastGiven given initial events =
      ((events.filterMap given).getLast?).getD initial :=
  List.getLastD_eq_getLast? ..

/-- Events that agree on what they give, at least one of them giving it. -/
theorem lastGiven_eq {initial value : Value} {events : List Event}
    (agree : ∀ event ∈ events, ∀ other ∈ given event, other = value)
    (gives : ∃ event ∈ events, given event = some value) :
    lastGiven given initial events = value := by
  obtain ⟨event, member, given_eq⟩ := gives
  have nonempty : events.filterMap given ≠ [] :=
    List.ne_nil_of_mem (List.mem_filterMap.mpr ⟨event, member, given_eq⟩)
  rw [lastGiven, List.getLastD_eq_getLast?,
    List.getLast?_eq_getLast_of_ne_nil nonempty, Option.getD_some]
  obtain ⟨last, lastMember, last_eq⟩ :=
    List.mem_filterMap.mp (List.getLast_mem nonempty)
  exact agree last lastMember _ last_eq

/-- If each event overwrites the field with what it gives, and with nothing
else, so does the whole list. -/
theorem foldl_field {field : State → Value} {update : State → Event → State}
    (overwrites : ∀ state event,
      field (update state event) = (given event).getD (field state))
    (events : List Event) (state : State) :
    field (events.foldl update state) =
      lastGiven given (field state) events := by
  induction events generalizing state with
  | nil => rfl
  | cons event events induction =>
      rw [List.foldl_cons, induction, overwrites, lastGiven_cons]

end Updates

end LogParse
