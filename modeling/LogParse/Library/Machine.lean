import Mathlib.Logic.Function.Basic

/-!
# Labelled machines, their runs and their invariants

A machine answers each label with at most one next state; a label it answers
with `none` is not enabled.  Interleaving is the freedom to choose the next
label.  A run may be restricted by a predicate on the state before each step
and the label taken there, so a result about "every run whose steps all meet
a condition" is a result about the runs of that predicate.
-/

namespace LogParse

universe u v

structure Machine (State : Type u) (Label : Type v) where
  start : State
  step : State → Label → Option State

namespace Machine

variable {State Label State' Label' : Type*}

/-- `machine.Run admits first labels last`: the labels lead from `first` to
`last`, each of them enabled and admitted in the state it is taken in. -/
inductive Run (machine : Machine State Label)
    (admits : State → Label → Prop) (first : State) :
    List Label → State → Prop where
  | nil : Run machine admits first [] first
  | snoc {middle last : State} {labels : List Label} {label : Label} :
      Run machine admits first labels middle →
      admits middle label →
      machine.step middle label = some last →
      Run machine admits first (labels ++ [label]) last

/-- No restriction on the labels taken. -/
abbrev Free : State → Label → Prop := fun _ _ => True

/-- The states some run from the start leads to. -/
def Reachable (machine : Machine State Label) (state : State) : Prop :=
  ∃ labels, machine.Run Free machine.start labels state

/-- One step preserves the predicate wherever the label is admitted. -/
def Preserves (machine : Machine State Label)
    (admits : State → Label → Prop) (holds : State → Prop) : Prop :=
  ∀ ⦃before label after⦄, machine.step before label = some after →
    admits before label → holds before → holds after

namespace Run

variable {machine : Machine State Label} {admits : State → Label → Prop}
  {first middle last : State} {labels before after : List Label}

/-- What every admitted step preserves, every admitted run preserves. -/
theorem invariant {holds : State → Prop}
    (run : machine.Run admits first labels last)
    (preserved : machine.Preserves admits holds) (initially : holds first) :
    holds last := by
  induction run with
  | nil => exact initially
  | snoc _ admitted stepped induction =>
      exact preserved stepped admitted induction

theorem weaken {admits' : State → Label → Prop}
    (run : machine.Run admits first labels last)
    (weaker : ∀ state label, admits state label → admits' state label) :
    machine.Run admits' first labels last := by
  induction run with
  | nil => exact .nil
  | snoc _ admitted stepped induction =>
      exact .snoc induction (weaker _ _ admitted) stepped

theorem free (run : machine.Run admits first labels last) :
    machine.Run Free first labels last :=
  run.weaken fun _ _ _ => trivial

theorem append (run : machine.Run admits first before middle)
    (continued : machine.Run admits middle after last) :
    machine.Run admits first (before ++ after) last := by
  induction continued with
  | nil => simpa using run
  | snoc _ admitted stepped induction =>
      rw [← List.append_assoc]
      exact .snoc induction admitted stepped

theorem single {label : Label} (admitted : admits first label)
    (stepped : machine.step first label = some last) :
    machine.Run admits first [label] last :=
  .snoc .nil admitted stepped

/-- A budget that no step raises, and that each step of the counted kind
lowers, bounds their number. -/
theorem countP_le {holds : State → Prop} (counts : Label → Bool)
    (budget : State → Nat)
    (run : machine.Run admits first labels last)
    (preserved : machine.Preserves admits holds)
    (paid : ∀ ⦃before label after⦄, machine.step before label = some after →
      admits before label → holds before →
      (if counts label then 1 else 0) + budget after ≤ budget before)
    (initially : holds first) :
    labels.countP counts + budget last ≤ budget first := by
  induction run with
  | nil => simp
  | snoc previous admitted stepped induction =>
      have payment :=
        paid stepped admitted (previous.invariant preserved initially)
      rw [List.countP_append, List.countP_singleton]
      omega

end Run

theorem Reachable.invariant {machine : Machine State Label} {state : State}
    {holds : State → Prop} (reachable : machine.Reachable state)
    (preserved : machine.Preserves Free holds)
    (initially : holds machine.start) : holds state := by
  obtain ⟨_, run⟩ := reachable
  exact run.invariant preserved initially

structure Transition (State : Type u) (Label : Type v) where
  before : State
  label : Label
  after : State
  deriving DecidableEq, Repr

section Transitions

variable (machine : Machine State Label)

/-- The steps that the labels take, up to the first one that is not
enabled. -/
def transitions : State → List Label → List (Transition State Label)
  | _, [] => []
  | state, label :: labels =>
      match machine.step state label with
      | some next => ⟨state, label, next⟩ :: transitions next labels
      | none => []

end Transitions

namespace Run

variable {machine : Machine State Label} {admits : State → Label → Prop}
  {first middle last : State} {labels : List Label} {label : Label}

theorem transitions_append
    (run : machine.Run admits first labels middle) (later : List Label) :
    machine.transitions first (labels ++ later) =
      machine.transitions first labels ++
        machine.transitions middle later := by
  induction run generalizing later with
  | nil => simp [transitions]
  | snoc _ _ stepped induction =>
      rw [List.append_assoc, induction, induction, List.append_assoc]
      simp [transitions, stepped]

theorem transitions_snoc
    (run : machine.Run admits first labels middle)
    (stepped : machine.step middle label = some last) :
    machine.transitions first (labels ++ [label]) =
      machine.transitions first labels ++ [⟨middle, label, last⟩] := by
  rw [run.transitions_append]
  simp [transitions, stepped]

theorem labels_eq (run : machine.Run admits first labels last) :
    (machine.transitions first labels).map Transition.label = labels := by
  induction run with
  | nil => rfl
  | snoc previous _ stepped induction =>
      rw [previous.transitions_snoc stepped, List.map_append, induction]
      rfl

/-- Every step of a run is a step of the machine that the run admits, taken
from a state in which the invariant holds. -/
theorem forall_transitions {holds : State → Prop}
    (run : machine.Run admits first labels last)
    (preserved : machine.Preserves admits holds) (initially : holds first) :
    ∀ transition ∈ machine.transitions first labels,
      holds transition.before ∧
        admits transition.before transition.label ∧
        machine.step transition.before transition.label =
          some transition.after := by
  induction run with
  | nil => simp [transitions]
  | snoc previous admitted stepped induction =>
      rw [previous.transitions_snoc stepped]
      intro transition member
      rcases List.mem_append.mp member with earlier | here
      · exact induction transition earlier
      · obtain rfl := List.mem_singleton.mp here
        exact ⟨previous.invariant preserved initially, admitted, stepped⟩

theorem step_eq (run : machine.Run admits first labels last) :
    ∀ transition ∈ machine.transitions first labels,
      machine.step transition.before transition.label =
        some transition.after := by
  have preserved : machine.Preserves admits fun _ => True :=
    fun _ _ _ _ _ _ => trivial
  intro transition member
  exact (run.forall_transitions preserved trivial transition member).2.2

/-- A run whose steps all meet a condition is a run that admits only such
steps. -/
theorem strengthen {admits' : State → Label → Prop}
    (run : machine.Run admits first labels last)
    (met : ∀ transition ∈ machine.transitions first labels,
      admits' transition.before transition.label) :
    machine.Run admits' first labels last := by
  induction run with
  | nil => exact .nil
  | snoc previous _ stepped induction =>
      rw [previous.transitions_snoc stepped] at met
      refine .snoc (induction ?_) ?_ stepped
      · intro transition member
        exact met transition (List.mem_append_left _ member)
      · exact met _ (List.mem_append_right _ (List.mem_singleton_self _))

/-- Where a step keeps a property exactly under a condition, a run keeps it
throughout exactly if all its steps meet the condition. -/
theorem throughout_iff {holds invariant : State → Prop}
    {condition : State → Label → Prop}
    (run : machine.Run admits first labels last)
    (preserved : machine.Preserves admits invariant)
    (invariantFirst : invariant first)
    (kept : ∀ ⦃before label after⦄, machine.step before label = some after →
      admits before label → invariant before → holds before →
      (holds after ↔ condition before label))
    (initially : holds first) :
    (∀ transition ∈ machine.transitions first labels,
        holds transition.after) ↔
      ∀ transition ∈ machine.transitions first labels,
        condition transition.before transition.label := by
  suffices both :
      ((∀ transition ∈ machine.transitions first labels,
          holds transition.after) ↔
        ∀ transition ∈ machine.transitions first labels,
          condition transition.before transition.label) ∧
      ((∀ transition ∈ machine.transitions first labels,
          holds transition.after) → holds last) from both.1
  induction run with
  | nil => simp [transitions, initially]
  | snoc previous admitted stepped induction =>
      obtain ⟨same, reached⟩ := induction
      have valid := previous.invariant preserved invariantFirst
      rw [previous.transitions_snoc stepped]
      simp only [List.forall_mem_append, List.forall_mem_singleton]
      refine ⟨?_, fun all => all.2⟩
      constructor
      · rintro ⟨earlier, here⟩
        exact ⟨same.mp earlier,
          (kept stepped admitted valid (reached earlier)).mp here⟩
      · rintro ⟨earlier, here⟩
        have before := reached (same.mpr earlier)
        exact ⟨same.mpr earlier,
          (kept stepped admitted valid before).mpr here⟩

/-- A step of a run is taken after the labels in front of it. -/
theorem exists_of_mem_transitions {transition : Transition State Label}
    (run : machine.Run admits first labels last)
    (member : transition ∈ machine.transitions first labels) :
    ∃ taken later, labels = taken ++ transition.label :: later ∧
      machine.Run admits first taken transition.before := by
  induction run with
  | nil => cases member
  | snoc previous _ stepped induction =>
      rw [previous.transitions_snoc stepped] at member
      rcases List.mem_append.mp member with earlier | here
      · obtain ⟨taken, later, rfl, reached⟩ := induction earlier
        exact ⟨taken, later ++ [_], List.append_assoc _ _ _, reached⟩
      · obtain rfl := List.mem_singleton.mp here
        exact ⟨_, [], rfl, previous⟩

/-- After a run, the next label is taken in the state it leads to. -/
theorem mem_transitions (run : machine.Run admits first labels middle)
    (stepped : machine.step middle label = some last) (later : List Label) :
    ⟨middle, label, last⟩ ∈
      machine.transitions first (labels ++ label :: later) := by
  rw [run.transitions_append]
  simp [transitions, stepped]

/-- An invariant that may speak of the labels taken so far. -/
theorem invariant_labels {holds : List Label → State → Prop}
    (run : machine.Run admits first labels last)
    (preserved : ∀ ⦃taken before label after⦄,
      machine.step before label = some after → admits before label →
      holds taken before → holds (taken ++ [label]) after)
    (initially : holds [] first) : holds labels last := by
  induction run with
  | nil => exact initially
  | snoc _ admitted stepped induction =>
      exact preserved stepped admitted induction

end Run

/-- A machine in which every label is enabled runs on any labels. -/
theorem exists_run_of_total {machine : Machine State Label}
    (total : ∀ state label, ∃ next, machine.step state label = some next)
    (first : State) (labels : List Label) :
    ∃ last, machine.Run Free first labels last := by
  induction labels generalizing first with
  | nil => exact ⟨first, .nil⟩
  | cons label labels induction =>
      obtain ⟨next, stepped⟩ := total first label
      obtain ⟨last, run⟩ := induction next
      exact ⟨last, (Run.single trivial stepped).append run⟩

section Execution

variable (machine : Machine State Label) (admits : State → Label → Prop)
  [∀ state label, Decidable (admits state label)]

/-- Takes the labels one after the other, stopping at the first one that is
not enabled or not admitted. -/
def exec : State → List Label → Option State
  | state, [] => some state
  | state, label :: labels =>
      if admits state label then
        match machine.step state label with
        | some next => exec next labels
        | none => none
      else none

theorem run_of_exec (first : State) (labels : List Label) {last : State}
    (executed : exec machine admits first labels = some last) :
    machine.Run admits first labels last := by
  induction labels generalizing first with
  | nil =>
      simp only [exec, Option.some.injEq] at executed
      subst last
      exact .nil
  | cons label labels induction =>
      simp only [exec] at executed
      split at executed
      · rename_i admitted
        cases stepped : machine.step first label with
        | none => simp [stepped] at executed
        | some next =>
            simp only [stepped] at executed
            exact (Run.single admitted stepped).append (induction next executed)
      · simp at executed

/-- A run on given labels, with what can be decided of the state it ends
in. -/
theorem exists_run (first : State) (labels : List Label)
    (holds : State → Prop) [DecidablePred holds]
    (executed : ∃ last ∈ exec machine admits first labels, holds last) :
    ∃ last, machine.Run admits first labels last ∧ holds last := by
  obtain ⟨last, reached, held⟩ := executed
  exact ⟨last, run_of_exec machine admits first labels reached, held⟩

end Execution

/-- No admitted label is enabled. -/
def Stuck (machine : Machine State Label) (admits : State → Label → Prop)
    (state : State) : Prop :=
  ∀ label, admits state label → machine.step state label = none

section Budget

variable {machine : Machine State Label} {admits : State → Label → Prop}
  {holds : State → Prop} {budget : State → Nat}

/-- If each step lowers the budget, a run is no longer than it. -/
theorem Run.length_le {first last : State} {labels : List Label}
    (run : machine.Run admits first labels last)
    (preserved : machine.Preserves admits holds)
    (paid : ∀ ⦃before label after⦄, machine.step before label = some after →
      admits before label → holds before → budget after < budget before)
    (initially : holds first) :
    labels.length + budget last ≤ budget first := by
  have counted := run.countP_le (fun _ => true) budget preserved
    (fun before label after stepped admitted held => by
      have lowered := paid stepped admitted held
      simp only [if_true]
      omega) initially
  simpa using counted

/-- If each step lowers the budget, some run cannot be continued. -/
theorem exists_run_stuck (preserved : machine.Preserves admits holds)
    (paid : ∀ ⦃before label after⦄, machine.step before label = some after →
      admits before label → holds before → budget after < budget before)
    (first : State) (initially : holds first) :
    ∃ labels last, machine.Run admits first labels last ∧
      machine.Stuck admits last := by
  induction size : budget first using Nat.strongRecOn
    generalizing first with
  | _ size induction =>
      by_cases stuck : machine.Stuck admits first
      · exact ⟨[], first, .nil, stuck⟩
      · simp only [Stuck, not_forall] at stuck
        obtain ⟨label, admitted, enabled⟩ := stuck
        obtain ⟨next, stepped⟩ := Option.ne_none_iff_exists'.mp enabled
        have lowered := paid stepped admitted initially
        obtain ⟨labels, last, run, stuckLast⟩ := induction (budget next)
          (size ▸ lowered) next (preserved stepped admitted initially) rfl
        exact ⟨label :: labels, last,
          (Run.single admitted stepped).append run, stuckLast⟩

end Budget

/-- From this state some admitted run leads to a state of this kind. -/
def Reaches (machine : Machine State Label) (admits : State → Label → Prop)
    (first : State) (holds : State → Prop) : Prop :=
  ∃ labels last, machine.Run admits first labels last ∧ holds last

namespace Reaches

variable {machine : Machine State Label} {admits : State → Label → Prop}
  {holds more : State → Prop} {first next : State} {label : Label}

theorem here (already : holds first) : machine.Reaches admits first holds :=
  ⟨[], first, .nil, already⟩

theorem step (admitted : admits first label)
    (stepped : machine.step first label = some next)
    (reaches : machine.Reaches admits next holds) :
    machine.Reaches admits first holds := by
  obtain ⟨labels, last, run, held⟩ := reaches
  exact ⟨label :: labels, last, (Run.single admitted stepped).append run,
    held⟩

theorem bind (reaches : machine.Reaches admits first holds)
    (continued : ∀ middle, holds middle →
      machine.Reaches admits middle more) :
    machine.Reaches admits first more := by
  obtain ⟨labels, middle, run, held⟩ := reaches
  obtain ⟨later, last, onward, held⟩ := continued middle held
  exact ⟨labels ++ later, last, run.append onward, held⟩

end Reaches

/-- Every admitted step of the concrete machine is, through the state map, a
run of the abstract one. -/
def Simulates (concrete : Machine State Label)
    (admits : State → Label → Prop) (holds : State → Prop)
    (abstract : Machine State' Label') (admits' : State' → Label' → Prop)
    (view : State → State') : Prop :=
  ∀ ⦃before label after⦄, concrete.step before label = some after →
    admits before label → holds before →
    ∃ labels, abstract.Run admits' (view before) labels (view after)

theorem Run.simulate {concrete : Machine State Label}
    {admits : State → Label → Prop} {holds : State → Prop}
    {abstract : Machine State' Label'} {admits' : State' → Label' → Prop}
    {view : State → State'} {first last : State} {labels : List Label}
    (run : concrete.Run admits first labels last)
    (simulates : concrete.Simulates admits holds abstract admits' view)
    (preserved : concrete.Preserves admits holds) (initially : holds first) :
    ∃ labels', abstract.Run admits' (view first) labels' (view last) := by
  induction run with
  | nil => exact ⟨[], .nil⟩
  | snoc previous admitted stepped induction =>
      obtain ⟨earlier, abstractRun⟩ := induction
      obtain ⟨later, continued⟩ := simulates stepped admitted
        (previous.invariant preserved initially)
      exact ⟨earlier ++ later, abstractRun.append continued⟩

end Machine

end LogParse
