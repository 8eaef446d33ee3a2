import LogParse.Library.Machine
import Mathlib.Logic.Function.Basic

/-!
# Components that share a store

A store holds something under every name.  A component that uses only the
names of its footprint cannot tell whether others use the rest.  Components
with disjoint footprints share a store as if each had one of its own.
-/

namespace LogParse

universe u v

abbrev Store (Name Content : Type*) := Name → Content

section Agree

variable {Name Content : Type*}

def AgreeOn (names : Name → Prop) (left right : Store Name Content) : Prop :=
  ∀ name, names name → left name = right name

theorem AgreeOn.refl (names : Name → Prop) (store : Store Name Content) :
    AgreeOn names store store :=
  fun _ _ => rfl

end Agree

/-- What a component does to its own state and to the store. -/
abbrev StoreStep (State Label Name Content : Type*) :=
  State → Store Name Content → Label → Option (State × Store Name Content)

/-- The component leaves every other name alone, and what it does depends on
no other name. -/
structure Local {State Label Name Content : Type*}
    (step : StoreStep State Label Name Content)
    (footprint : State → Name → Prop) : Prop where
  frame : ∀ {state store label next after},
    step state store label = some (next, after) →
    ∀ name, ¬ footprint state name → after name = store name
  stays : ∀ {state store label next after},
    step state store label = some (next, after) →
    footprint next = footprint state
  congr : ∀ {state store label next after other},
    step state store label = some (next, after) →
    AgreeOn (footprint state) store other →
    ∃ afterOther, step state other label = some (next, afterOther) ∧
      AgreeOn (footprint state) after afterOther

section Machines

variable {ι State Label Name Content : Type u} [DecidableEq ι]
  (step : StoreStep State Label Name Content)

/-- One component with a store of its own. -/
def soloMachine (state : State) (store : Store Name Content) :
    Machine (State × Store Name Content) Label where
  start := (state, store)
  step := fun (state, store) label => step state store label

/-- Several components on one store, a step of one at a time. -/
def sharedMachine (states : ι → State) (store : Store Name Content) :
    Machine ((ι → State) × Store Name Content) (ι × Label) where
  start := (states, store)
  step := fun (states, store) (component, label) =>
    (step (states component) store label).map fun (next, after) =>
      (Function.update states component next, after)

/-- The labels of one component. -/
def labelsOf (component : ι) (labels : List (ι × Label)) : List Label :=
  labels.filterMap fun (other, label) =>
    if other = component then some label else none

variable {step} {footprint : State → Name → Prop} {states : ι → State}
  {store : Store Name Content} {labels : List (ι × Label)}
  {last : (ι → State) × Store Name Content}

theorem labelsOf_snoc (component other : ι) (labels : List (ι × Label))
    (label : Label) :
    labelsOf component (labels ++ [(other, label)]) =
      labelsOf component labels ++
        if other = component then [label] else [] := by
  by_cases same : other = component <;> simp [labelsOf, same]

theorem footprint_stays (isLocal : Local step footprint)
    (run : (sharedMachine step states store).Run Machine.Free
      (states, store) labels last) (component : ι) :
    footprint (last.1 component) = footprint (states component) := by
  induction run with
  | nil => rfl
  | @snoc labels middle last label previous _ stepped induction =>
      obtain ⟨other, label⟩ := label
      simp only [sharedMachine, Option.map_eq_some_iff] at stepped
      obtain ⟨⟨next, after⟩, moved, rfl⟩ := stepped
      by_cases same : component = other
      · subst component
        simpa [← induction] using isLocal.stays moved
      · simpa [same] using induction

/-- Each component has gone through a run of its own, on a store that agrees
with the shared one wherever the component looks. -/
theorem solo_of_shared (isLocal : Local step footprint)
    (disjoint : ∀ component other, component ≠ other → ∀ name,
      footprint (states component) name → ¬ footprint (states other) name)
    (run : (sharedMachine step states store).Run Machine.Free
      (states, store) labels last) (component : ι) :
    ∃ own, (soloMachine step (states component) store).Run Machine.Free
        (states component, store) (labelsOf component labels)
        (last.1 component, own) ∧
      AgreeOn (footprint (states component)) last.2 own := by
  induction run with
  | nil => exact ⟨store, .nil, .refl _ _⟩
  | @snoc labels middle last label previous admitted stepped induction =>
      obtain ⟨other, label⟩ := label
      obtain ⟨own, solo, agree⟩ := induction
      have stays := footprint_stays isLocal previous
      simp only [sharedMachine, Option.map_eq_some_iff] at stepped
      obtain ⟨⟨next, after⟩, moved, rfl⟩ := stepped
      rw [labelsOf_snoc]
      by_cases same : other = component
      · subst other
        rw [← stays] at agree
        obtain ⟨ownAfter, ownMoved, ownAgree⟩ := isLocal.congr moved agree
        rw [stays] at ownAgree
        refine ⟨ownAfter, ?_, ownAgree⟩
        rw [if_pos rfl]
        refine .snoc solo admitted ?_
        simpa [soloMachine] using ownMoved
      · refine ⟨own, ?_, ?_⟩
        · rw [if_neg same, List.append_nil]
          simpa [Ne.symm same] using solo
        · intro name mine
          rw [← agree name mine]
          apply isLocal.frame moved
          rw [stays]
          exact disjoint component other (Ne.symm same) name mine

/-- Nothing outside all footprints changes. -/
theorem shared_frame (isLocal : Local step footprint)
    (run : (sharedMachine step states store).Run Machine.Free
      (states, store) labels last) {name : Name}
    (nobody : ∀ component, ¬ footprint (states component) name) :
    last.2 name = store name := by
  induction run with
  | nil => rfl
  | @snoc labels middle last label previous _ stepped induction =>
      obtain ⟨other, label⟩ := label
      have stays := footprint_stays isLocal previous other
      simp only [sharedMachine, Option.map_eq_some_iff] at stepped
      obtain ⟨⟨next, after⟩, moved, rfl⟩ := stepped
      rw [← induction]
      apply isLocal.frame moved
      rw [stays]
      exact nobody other

end Machines

end LogParse
