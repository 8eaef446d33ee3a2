import LogParse.Formatter
import LogParse.Library.Machine
import Mathlib.Tactic.Common

/-!
# Synchronous logging from within a sink

All `SyncBackend` objects format into one buffer of the thread, which is passed
down the sink list by reference; the scratch buffer each object declares is not
used.  A sink that logs before its `write` returns clears the bytes it was
given.
-/

namespace LogParse

/-- The `m_formatter` of a `SyncBackend` and the number of its sinks. -/
structure SyncMembers where
  mFormatter : Formatter
  sinks : Nat
  deriving DecidableEq, Repr

/-- A place in `SyncBackend::log`: before `format`, in the loop of
`SinkManager::write`, or in the `write` of a sink. -/
inductive SyncPlace where
  | formatting
  | between (next : Nat)
  | writing (sink : Nat)
  deriving DecidableEq, Repr

structure SyncCall (β : Type) where
  backend : β
  record : LogRecord
  place : SyncPlace := .formatting
  deriving DecidableEq, Repr

/-- The thread-local variables and the calls of `log` under way, the innermost
first. -/
structure SyncThread (β : Type) where
  tlsBuffer : Text := []
  cache : TimestampCache := {}
  calls : List (SyncCall β) := []
  deriving DecidableEq, Repr

inductive SyncLabel (β : Type) where
  | log (backend : β) (record : LogRecord)
  | format
  | enterWrite
  | leaveWrite
  | logReturn
  deriving DecidableEq, Repr

namespace SyncThread

variable {β : Type}

/-- `log` is called from the top level or from the `write` of a sink, and
starts with `tls_buffer.clear()`. -/
def log (thread : SyncThread β) (backend : β) (record : LogRecord) :
    Option (SyncThread β) :=
  let called : SyncThread β :=
    { thread with
      tlsBuffer := []
      calls := { backend := backend, record := record } :: thread.calls }
  match thread.calls with
  | [] => some called
  | ⟨_, _, .writing _⟩ :: _ => some called
  | _ => none

def format (platform : Platform) (members : β → SyncMembers)
    (thread : SyncThread β) : Option (SyncThread β) :=
  match thread.calls with
  | ⟨backend, record, .formatting⟩ :: outer =>
      match (members backend).mFormatter.format platform none thread.cache
        thread.tlsBuffer record with
      | (some buffer, cache) =>
          some {
            tlsBuffer := buffer
            cache := cache
            calls := ⟨backend, record, .between 0⟩ :: outer }
      | (none, _) => none
  | _ => none

def enterWrite (members : β → SyncMembers) (thread : SyncThread β) :
    Option (SyncThread β) :=
  match thread.calls with
  | ⟨backend, record, .between next⟩ :: outer =>
      if next < (members backend).sinks then
        some { thread with
          calls := ⟨backend, record, .writing next⟩ :: outer }
      else none
  | _ => none

def leaveWrite (thread : SyncThread β) : Option (SyncThread β) :=
  match thread.calls with
  | ⟨backend, record, .writing sink⟩ :: outer =>
      some { thread with
        calls := ⟨backend, record, .between (sink + 1)⟩ :: outer }
  | _ => none

def logReturn (members : β → SyncMembers) (thread : SyncThread β) :
    Option (SyncThread β) :=
  match thread.calls with
  | ⟨backend, _, .between next⟩ :: outer =>
      if next < (members backend).sinks then none
      else some { thread with calls := outer }
  | _ => none

def step (platform : Platform) (members : β → SyncMembers)
    (thread : SyncThread β) : SyncLabel β → Option (SyncThread β)
  | .log backend record => thread.log backend record
  | .format => thread.format platform members
  | .enterWrite => thread.enterWrite members
  | .leaveWrite => thread.leaveWrite
  | .logReturn => thread.logReturn members

end SyncThread

def syncThreadMachine {β : Type} (platform : Platform)
    (members : β → SyncMembers) : Machine (SyncThread β) (SyncLabel β) where
  start := {}
  step := SyncThread.step platform members

section Undisturbed

variable {β : Type}

/-- The bytes the formatter of the backend produces for the record. -/
def SyncCall.bytes (platform : Platform) (members : β → SyncMembers)
    (call : SyncCall β) : Text :=
  (members call.backend).mFormatter.render platform call.record

def SyncPlace.inWrite : SyncPlace → Bool
  | .writing _ => true
  | .formatting | .between _ => false

/-- Each sink whose `write` is under way has the bytes of its own record. -/
def SyncThread.Undisturbed (platform : Platform)
    (members : β → SyncMembers) (thread : SyncThread β) : Prop :=
  ∀ call ∈ thread.calls, call.place.inWrite = true →
    thread.tlsBuffer = call.bytes platform members

instance (platform : Platform) (members : β → SyncMembers)
    (thread : SyncThread β) :
    Decidable (thread.Undisturbed platform members) :=
  inferInstanceAs (Decidable (∀ _ ∈ _, _ → _))

/-- No sink calls `log` before its `write` returns. -/
def SyncThread.LogsOutside (thread : SyncThread β) : SyncLabel β → Prop
  | .log _ _ => thread.calls = []
  | .format | .enterWrite | .leaveWrite | .logReturn => True

instance (thread : SyncThread β) :
    (label : SyncLabel β) → Decidable (thread.LogsOutside label)
  | .log _ _ => decidable_of_iff (thread.calls.isEmpty = true)
      List.isEmpty_iff
  | .format | .enterWrite | .leaveWrite | .logReturn =>
      inferInstanceAs (Decidable True)

variable {platform : Platform} {members : β → SyncMembers}
  {before after : SyncThread β}

theorem SyncCall.bytes_ne_nil (call : SyncCall β) :
    call.bytes platform members ≠ [] := by
  simp [bytes, Formatter.render]

/-- A call of `log` clears the bytes of the writes that are under way. -/
theorem SyncThread.calls_eq_nil_of_log {backend : β} {record : LogRecord}
    (stepped : before.log backend record = some after)
    (undisturbed : after.Undisturbed platform members) :
    before.calls = [] := by
  simp only [log] at stepped
  split at stepped
  · assumption
  · rename_i outer nested sink rest calls
    obtain rfl := Option.some.inj stepped
    have member : ⟨outer, nested, .writing sink⟩ ∈
        { backend := backend, record := record } :: before.calls := by
      rw [calls]
      exact .tail _ (.head _)
    have cleared := undisturbed _ member rfl
    exact absurd cleared.symm (SyncCall.bytes_ne_nil _)
  · cases stepped

/-- At most one call is under way, and the buffer is its own. -/
structure SyncThread.Alone (platform : Platform) (members : β → SyncMembers)
    (thread : SyncThread β) : Prop where
  sound : thread.cache.Sound platform
  calls : thread.calls = [] ∨ ∃ call, thread.calls = [call] ∧
    thread.tlsBuffer =
      if call.place = .formatting then [] else call.bytes platform members

namespace SyncThread.Alone

theorem undisturbed (alone : before.Alone platform members) :
    before.Undisturbed platform members := by
  intro call member inWrite
  rcases alone.calls with idle | ⟨only, calls, buffer⟩
  · rw [idle] at member
    cases member
  · rw [calls, List.mem_singleton] at member
    subst only
    have formatted : call.place ≠ .formatting := by
      intro place
      rw [place] at inWrite
      cases inWrite
    rw [buffer, if_neg formatted]

/-- The innermost call is the only one. -/
theorem only_call (alone : before.Alone platform members)
    {call : SyncCall β} {outer : List (SyncCall β)}
    (calls : before.calls = call :: outer) :
    outer = [] ∧ before.tlsBuffer =
      if call.place = .formatting then []
      else call.bytes platform members := by
  rcases alone.calls with idle | ⟨only, single, buffer⟩
  · rw [idle] at calls
    cases calls
  · rw [single] at calls
    obtain ⟨rfl, rfl⟩ := List.cons.inj calls
    exact ⟨rfl, buffer⟩

theorem format (alone : before.Alone platform members)
    (stepped : before.format platform members = some after) :
    after.Alone platform members := by
  simp only [SyncThread.format] at stepped
  split at stepped
  · rename_i backend record outer calls
    obtain ⟨rfl, buffer⟩ := alone.only_call calls
    obtain ⟨cache, formatted, sound⟩ :=
      (members backend).mFormatter.format_spec alone.sound before.tlsBuffer
        record
    rw [formatted] at stepped
    obtain rfl := Option.some.inj stepped
    refine ⟨sound, .inr ⟨_, rfl, ?_⟩⟩
    dsimp only
    rw [buffer, if_pos rfl, List.nil_append, if_neg (by simp)]
    rfl
  · cases stepped

theorem enterWrite (alone : before.Alone platform members)
    (stepped : before.enterWrite members = some after) :
    after.Alone platform members := by
  simp only [SyncThread.enterWrite] at stepped
  split at stepped
  · rename_i backend record next outer calls
    obtain ⟨rfl, buffer⟩ := alone.only_call calls
    split at stepped
    · obtain rfl := Option.some.inj stepped
      exact ⟨alone.sound, .inr ⟨_, rfl, buffer⟩⟩
    · cases stepped
  · cases stepped

theorem leaveWrite (alone : before.Alone platform members)
    (stepped : before.leaveWrite = some after) :
    after.Alone platform members := by
  simp only [SyncThread.leaveWrite] at stepped
  split at stepped
  · rename_i backend record sink outer calls
    obtain ⟨rfl, buffer⟩ := alone.only_call calls
    obtain rfl := Option.some.inj stepped
    exact ⟨alone.sound, .inr ⟨_, rfl, buffer⟩⟩
  · cases stepped

theorem logReturn (alone : before.Alone platform members)
    (stepped : before.logReturn members = some after) :
    after.Alone platform members := by
  simp only [SyncThread.logReturn] at stepped
  split at stepped
  · rename_i backend record next outer calls
    obtain ⟨rfl, _⟩ := alone.only_call calls
    split at stepped
    · cases stepped
    · obtain rfl := Option.some.inj stepped
      exact ⟨alone.sound, .inl rfl⟩
  · cases stepped

theorem log (alone : before.Alone platform members) {backend : β}
    {record : LogRecord} (outside : before.calls = [])
    (stepped : before.log backend record = some after) :
    after.Alone platform members := by
  simp only [SyncThread.log, outside, Option.some.injEq] at stepped
  subst after
  exact ⟨alone.sound, .inr ⟨_, rfl, (if_pos rfl).symm⟩⟩

theorem preserved :
    (syncThreadMachine platform members).Preserves
      (fun thread label => thread.LogsOutside label)
      (SyncThread.Alone platform members) := by
  intro before label after stepped outside alone
  cases label with
  | log backend record => exact alone.log outside stepped
  | format => exact alone.format stepped
  | enterWrite => exact alone.enterWrite stepped
  | leaveWrite => exact alone.leaveWrite stepped
  | logReturn => exact alone.logReturn stepped

end SyncThread.Alone

/-- In every run, whatever logs from within a write, all writes keep the bytes
of their own records exactly if none does. -/
theorem writes_undisturbed_iff {labels : List (SyncLabel β)}
    {thread : SyncThread β}
    (run : (syncThreadMachine platform members).Run Machine.Free {} labels
      thread) :
    (∀ transition ∈ (syncThreadMachine platform members).transitions {}
        labels,
      transition.after.Undisturbed platform members) ↔
    ∀ transition ∈ (syncThreadMachine platform members).transitions {}
        labels,
      transition.before.LogsOutside transition.label := by
  constructor
  · intro undisturbed transition member
    have stepped := run.step_eq transition member
    have after := undisturbed transition member
    cases label : transition.label with
    | log backend record =>
        rw [label] at stepped
        exact SyncThread.calls_eq_nil_of_log stepped after
    | format | enterWrite | leaveWrite | logReturn => trivial
  · intro outside transition member
    have alone : SyncThread.Alone platform members ({} : SyncThread β) :=
      ⟨.empty, .inl rfl⟩
    obtain ⟨before, admitted, stepped⟩ :=
      (run.strengthen outside).forall_transitions SyncThread.Alone.preserved
        alone transition member
    exact (SyncThread.Alone.preserved stepped admitted before).undisturbed

end Undisturbed

/-- Two backends that log one after the other. -/
theorem writes_undisturbed_in_turn :
    ∃ thread, (syncThreadMachine Platform.epoch fun _ : Bool =>
        ⟨.make "%m".toList, 1⟩).Run Machine.Free {}
        [.log false { message := "a".toList }, .format, .enterWrite,
          .leaveWrite, .logReturn, .log true { message := "b".toList },
          .format, .enterWrite] thread ∧
      ∀ transition ∈ (syncThreadMachine Platform.epoch fun _ : Bool =>
          ⟨.make "%m".toList, 1⟩).transitions {}
          [.log false { message := "a".toList }, .format, .enterWrite,
            .leaveWrite, .logReturn, .log true { message := "b".toList },
            .format, .enterWrite],
        transition.after.Undisturbed Platform.epoch
          fun _ => ⟨.make "%m".toList, 1⟩ := by
  obtain ⟨thread, run, _⟩ := Machine.exists_run
    (syncThreadMachine Platform.epoch fun _ : Bool =>
      ⟨.make "%m".toList, 1⟩)
    Machine.Free {}
    [.log false { message := "a".toList }, .format, .enterWrite,
      .leaveWrite, .logReturn, .log true { message := "b".toList },
      .format, .enterWrite]
    (fun _ => True) (by decide +kernel)
  exact ⟨thread, run, (writes_undisturbed_iff run).mpr (by decide +kernel)⟩

/-- The first sink of one backend logs through the other one; the second sink
is then given the bytes of that record. -/
theorem nested_log_mixes_buffers :
    ∃ thread, (syncThreadMachine Platform.epoch fun _ : Bool =>
        ⟨.make "%m".toList, 2⟩).Run Machine.Free {}
        [.log false { message := "a".toList }, .format, .enterWrite,
          .log true { message := "b".toList }, .format, .enterWrite,
          .leaveWrite, .enterWrite, .leaveWrite, .logReturn, .leaveWrite,
          .enterWrite] thread ∧
      thread.calls =
        [⟨false, { message := "a".toList }, .writing 1⟩] ∧
      thread.tlsBuffer = "b\n".toList ∧
      ¬ thread.Undisturbed Platform.epoch fun _ => ⟨.make "%m".toList, 2⟩ :=
  Machine.exists_run
    (syncThreadMachine Platform.epoch fun _ : Bool =>
      ⟨.make "%m".toList, 2⟩)
    Machine.Free {}
    [.log false { message := "a".toList }, .format, .enterWrite,
      .log true { message := "b".toList }, .format, .enterWrite,
      .leaveWrite, .enterWrite, .leaveWrite, .logReturn, .leaveWrite,
      .enterWrite]
    (fun thread =>
      thread.calls = [⟨false, { message := "a".toList }, .writing 1⟩] ∧
      thread.tlsBuffer = "b\n".toList ∧
      ¬ thread.Undisturbed Platform.epoch fun _ => ⟨.make "%m".toList, 2⟩)
    (by decide +kernel)

end LogParse
