import LogParse.AsyncAccounting
import LogParse.Sink

/-!
# Sinks that throw

`SinkManager::write` goes through the sinks in order, and the exception of one
ends the loop; the worker swallows it only afterwards.  So a sink whose own
writes never throw still misses the records that an earlier sink throws on.
-/

namespace LogParse

/-- A sink in front of the position throws. -/
def EmitFault.CutsOff (position : Nat) (fault : EmitFault) : Prop :=
  ∃ earlier ∈ fault.sinks, earlier < position

instance (position : Nat) (fault : EmitFault) :
    Decidable (fault.CutsOff position) :=
  inferInstanceAs (Decidable (∃ _ ∈ _, _))

/-- The sink at the position never throws itself. -/
def EmitFault.Healthy (position : Nat) (fault : EmitFault) : Prop :=
  position ∉ fault.sinks

instance (position : Nat) (fault : EmitFault) :
    Decidable (fault.Healthy position) :=
  inferInstanceAs (Decidable (¬ _))

def AsyncLabel.fault? {ι κ ρ φ : Type} : AsyncLabel ι κ ρ φ → Option φ
  | .workerWrite fault => some fault
  | _ => none

/-- What threw at each record the worker processed. -/
def faults {ι κ ρ φ : Type} (labels : List (AsyncLabel ι κ ρ φ)) : List φ :=
  labels.filterMap AsyncLabel.fault?

theorem faults_snoc {ι κ ρ φ : Type} (labels : List (AsyncLabel ι κ ρ φ))
    (label : AsyncLabel ι κ ρ φ) :
    faults (labels ++ [label]) = faults labels ++ label.fault?.toList := by
  cases given : label.fault? <;> simp [faults, given]

/-- No rendering throws; sinks may. -/
def OnlySinksThrow {ι κ : Type} (_ : AsyncBackend ι κ LogRecord Output)
    (label : AsyncLabel ι κ LogRecord EmitFault) : Prop :=
  ∀ fault ∈ label.fault?, fault.rendering = none

instance {ι κ : Type} (backend : AsyncBackend ι κ LogRecord Output)
    (label : AsyncLabel ι κ LogRecord EmitFault) :
    Decidable (OnlySinksThrow backend label) :=
  inferInstanceAs (Decidable (∀ _ ∈ _, _))

theorem SinkManager.getElem?_writeFrom (throwing : List Nat) (buffer : Text)
    (start : Nat) (sinks : List Sink) (index : Nat) :
    (SinkManager.writeFrom throwing buffer start sinks).2[index]? =
      if ∃ earlier ∈ throwing, start ≤ earlier ∧ earlier ≤ start + index then
        sinks[index]?
      else (sinks[index]?).map (Sink.write · buffer) := by
  induction sinks generalizing start index with
  | nil => simp [writeFrom]
  | cons sink rest induction =>
      rw [writeFrom]
      by_cases throws : start ∈ throwing
      · have cut : ∃ earlier ∈ throwing,
            start ≤ earlier ∧ earlier ≤ start + index :=
          ⟨start, throws, Nat.le_refl start, Nat.le_add_right start index⟩
        rw [if_pos throws, if_pos cut]
      · rw [if_neg throws]
        cases index with
        | zero =>
            have uncut : ¬ ∃ earlier ∈ throwing,
                start ≤ earlier ∧ earlier ≤ start + 0 := by
              rintro ⟨earlier, member, above, below⟩
              obtain rfl : earlier = start := Nat.le_antisymm below above
              exact throws member
            rw [if_neg uncut]
            rfl
        | succ index =>
            have same : (∃ earlier ∈ throwing,
                  start ≤ earlier ∧ earlier ≤ start + (index + 1)) ↔
                ∃ earlier ∈ throwing,
                  start + 1 ≤ earlier ∧ earlier ≤ start + 1 + index := by
              constructor
              · rintro ⟨earlier, member, above, below⟩
                have different : earlier ≠ start := by
                  rintro rfl
                  exact throws member
                exact ⟨earlier, member, by omega, by omega⟩
              · rintro ⟨earlier, member, above, below⟩
                exact ⟨earlier, member, by omega, by omega⟩
            simp only [List.getElem?_cons_succ, same]
            exact induction (start + 1) index

/-- A sink that does not throw receives the buffer unless an earlier one
throws. -/
theorem SinkManager.getElem?_write {position : Nat} {fault : EmitFault}
    (healthy : fault.Healthy position) (sinks : List Sink) (buffer : Text) :
    (SinkManager.write sinks fault.sinks buffer).2[position]? =
      if fault.CutsOff position then sinks[position]?
      else (sinks[position]?).map (Sink.write · buffer) := by
  have same : (∃ earlier ∈ fault.sinks,
      0 ≤ earlier ∧ earlier ≤ 0 + position) ↔ fault.CutsOff position := by
    constructor
    · rintro ⟨earlier, member, _, below⟩
      have different : earlier ≠ position := by
        rintro rfl
        exact healthy member
      exact ⟨earlier, member, by omega⟩
    · rintro ⟨earlier, member, below⟩
      exact ⟨earlier, member, Nat.zero_le earlier, by omega⟩
  rw [write, getElem?_writeFrom]
  simp only [same]

/-- Without an exception of the rendering. -/
theorem Output.emit_sinks {platform : Platform} (output : Output)
    (sound : output.cache.Sound platform) {fault : EmitFault}
    (renders : fault.rendering = none) (record : LogRecord) :
    (output.emit platform fault record).2.formatter = output.formatter ∧
      (output.emit platform fault record).2.cache.Sound platform ∧
      (output.emit platform fault record).2.sinks =
        (SinkManager.write output.sinks fault.sinks
          (output.formatter.render platform record)).2 := by
  obtain ⟨cache, formatted, cacheSound⟩ :=
    output.formatter.format_spec sound [] record
  rw [List.nil_append] at formatted
  simp only [emit, renders, formatted]
  exact ⟨trivial, cacheSound, trivial⟩

/-- What a sink at the position gets to see of these records. -/
def reaching {ρ : Type} (position : Nat) (render : ρ → Text)
    (faults : List EmitFault) (records : List ρ) : List Text :=
  (faults.zip records).filterMap fun (fault, record) =>
    if fault.CutsOff position then none else some (render record)

theorem reaching_snoc {ρ : Type} {position : Nat} {render : ρ → Text}
    {faults : List EmitFault} {records : List ρ}
    (together : faults.length = records.length) (fault : EmitFault)
    (record : ρ) :
    reaching position render (faults ++ [fault]) (records ++ [record]) =
      reaching position render faults records ++
        if fault.CutsOff position then [] else [render record] := by
  rw [reaching, List.zip_append together, List.filterMap_append, reaching]
  by_cases cut : fault.CutsOff position <;> simp [cut]

/-- The sink misses nothing exactly if nothing cuts it off. -/
theorem reaching_eq_iff {ρ : Type} {position : Nat} {render : ρ → Text}
    {faults : List EmitFault} {records : List ρ}
    (together : faults.length = records.length) :
    reaching position render faults records = records.map render ↔
      ∀ fault ∈ faults, ¬ fault.CutsOff position := by
  induction faults generalizing records with
  | nil =>
      obtain rfl := List.eq_nil_of_length_eq_zero together.symm
      simp [reaching]
  | cons fault faults induction =>
      cases records with
      | nil => cases together
      | cons record records =>
          have shorter := induction (Nat.succ.inj together)
          by_cases cut : fault.CutsOff position
          · have missing : reaching position render (fault :: faults)
                (record :: records) =
                  reaching position render faults records := by
              simp [reaching, cut]
            have few : (reaching position render faults records).length ≤
                records.length := by
              refine (List.length_filterMap_le _ _).trans ?_
              rw [List.length_zip]
              exact Nat.min_le_right _ _
            constructor
            · intro all
              have lengths := congrArg List.length (missing.symm.trans all)
              simp only [List.length_map, List.length_cons] at lengths
              omega
            · intro none
              exact absurd cut (none fault (.head _))
          · have present : reaching position render (fault :: faults)
                (record :: records) =
                  render record :: reaching position render faults records := by
              simp [reaching, cut]
            rw [present, List.map_cons, List.cons.injEq, shorter,
              List.forall_mem_cons]
            simp [cut]

/-- The sink at the position, which does not throw itself, has received what
reached it. -/
structure FansOut {ι κ : Type} (platform : Platform) (formatter : Formatter)
    (position : Nat) (initial : Sink)
    (labels : List (AsyncLabel ι κ LogRecord EmitFault))
    (backend : AsyncBackend ι κ LogRecord Output) : Prop where
  formatter_eq : backend.output.formatter = formatter
  sound : backend.output.cache.Sound platform
  together : (faults labels).length = backend.written.length
  received : (∀ fault ∈ faults labels, fault.Healthy position) →
    ∃ sink, backend.output.sinks[position]? = some sink ∧
      sink.received = initial.received ++
        reaching position (formatter.render platform) (faults labels)
          (backend.written.map Ticketed.item)

namespace FansOut

variable {ι κ : Type} {platform : Platform} {formatter : Formatter}
  {position : Nat} {initial : Sink}
  {labels : List (AsyncLabel ι κ LogRecord EmitFault)}
  {label : AsyncLabel ι κ LogRecord EmitFault}
  {before after : AsyncBackend ι κ LogRecord Output}

/-- A step that hands nothing to the sinks. -/
theorem idle (fans : FansOut platform formatter position initial labels before)
    (output : after.output = before.output)
    (calls : after.calls = before.calls) (noFault : label.fault? = none) :
    FansOut platform formatter position initial (labels ++ [label]) after := by
  have sameFaults : faults (labels ++ [label]) = faults labels := by
    simp [faults_snoc, noFault]
  have sameWritten : after.written = before.written := by
    simp [AsyncBackend.written, calls]
  obtain ⟨formatterEq, sound, together, received⟩ := fans
  constructor
  · rw [output, formatterEq]
  · rw [output]
    exact sound
  · rw [sameFaults, sameWritten, together]
  · rw [sameFaults, sameWritten, output]
    exact received

/-- The sinks are flushed. -/
theorem flush (fans : FansOut platform formatter position initial labels before)
    (output : after.output = before.output.flush)
    (written : after.written = before.written)
    (noFault : label.fault? = none) :
    FansOut platform formatter position initial (labels ++ [label]) after := by
  have sameFaults : faults (labels ++ [label]) = faults labels := by
    simp [faults_snoc, noFault]
  obtain ⟨formatterEq, sound, together, received⟩ := fans
  constructor
  · rw [output]
    exact formatterEq
  · rw [output]
    exact sound
  · rw [sameFaults, written, together]
  · rw [sameFaults, written, output]
    intro healthy
    obtain ⟨sink, atPosition, got⟩ := received healthy
    refine ⟨sink.flush, ?_, by rw [Sink.received_flush, got]⟩
    simp [Output.flush, SinkManager.flush, atPosition]

theorem write (fans : FansOut platform formatter position initial labels before)
    {fault : EmitFault} (renders : fault.rendering = none)
    {entry : Ticketed LogRecord}
    (output : after.output =
      (before.output.emit platform fault entry.item).2)
    (calls : after.calls = before.calls ++ [.write entry]) :
    FansOut platform formatter position initial
      (labels ++ [.workerWrite fault]) after := by
  have faultsEq : faults (labels ++ [.workerWrite fault]) =
      faults labels ++ [fault] :=
    faults_snoc labels (.workerWrite fault)
  have writtenEq : after.written = before.written ++ [entry] := by
    simp [AsyncBackend.written, calls, SinkCall.entry?]
  obtain ⟨formatterEq, sound, together, received⟩ := fans
  obtain ⟨formatterSame, soundAfter, sinksEq⟩ :=
    before.output.emit_sinks sound renders entry.item
  constructor
  · rw [output, formatterSame, formatterEq]
  · rw [output]
    exact soundAfter
  · simp [faultsEq, writtenEq, together]
  · rw [faultsEq, writtenEq, output, sinksEq, List.map_append]
    intro healthy
    obtain ⟨earlier, here⟩ := List.forall_mem_append.mp healthy
    obtain ⟨sink, atPosition, got⟩ := received earlier
    have togetherItems : (faults labels).length =
        (before.written.map Ticketed.item).length := by
      rw [List.length_map, together]
    rw [SinkManager.getElem?_write (here fault (.head _)), atPosition,
      List.map_singleton, reaching_snoc togetherItems, formatterEq,
      ← List.append_assoc, ← got]
    by_cases cut : fault.CutsOff position
    · exact ⟨sink, by rw [if_pos cut], by simp [cut]⟩
    · exact ⟨_, by rw [if_neg cut, Option.map_some], by simp [cut]⟩

theorem step [DecidableEq ι] [DecidableEq κ]
    (fans : FansOut platform formatter position initial labels before)
    (stepped : before.step (Output.emitter platform) label = some after)
    (renders : OnlySinksThrow before label) :
    FansOut platform formatter position initial (labels ++ [label]) after := by
  cases AsyncStep.of_step stepped with
  | workerWrite fault writing =>
      exact fans.write (renders fault rfl) rfl rfl
  | workerFlush flushing =>
      exact fans.flush rfl (by simp [AsyncBackend.written, SinkCall.entry?]) rfl
  | flushReturn passed =>
      exact fans.flush rfl (by simp [AsyncBackend.written, SinkCall.entry?]) rfl
  | _ => exact fans.idle rfl rfl rfl

end FansOut

/-- The sink at the position has received every processed record once, in
order, as the formatter renders it. -/
def ReceivesAll {ι κ : Type} (platform : Platform) (formatter : Formatter)
    (position : Nat) (initial : Sink)
    (backend : AsyncBackend ι κ LogRecord Output) : Prop :=
  ∃ sink ∈ backend.output.sinks[position]?,
    sink.received = initial.received ++
      backend.written.map fun entry => formatter.render platform entry.item

instance {ι κ : Type} (platform : Platform) (formatter : Formatter)
    (position : Nat) (initial : Sink)
    (backend : AsyncBackend ι κ LogRecord Output) :
    Decidable (ReceivesAll platform formatter position initial backend) :=
  inferInstanceAs (Decidable (∃ _ ∈ _, _))

/-- A sink that never throws misses nothing exactly if no sink in front of it
throws. -/
theorem receivesAll_iff {ι κ : Type} [DecidableEq ι] [DecidableEq κ]
    {platform : Platform} {formatter : Formatter} {capacity : Nat}
    {policy : OverflowPolicy} {sinks : List Sink} {position : Nat}
    {initial : Sink} (atPosition : sinks[position]? = some initial)
    {labels : List (AsyncLabel ι κ LogRecord EmitFault)}
    {backend : AsyncBackend ι κ LogRecord Output}
    (run : (asyncMachine ι κ (Output.emitter platform) capacity policy
      { formatter := formatter, sinks := sinks }).Run OnlySinksThrow
        (.make capacity policy { formatter := formatter, sinks := sinks })
        labels backend)
    (healthy : ∀ fault ∈ faults labels, fault.Healthy position) :
    ReceivesAll platform formatter position initial backend ↔
      ∀ fault ∈ faults labels, ¬ fault.CutsOff position := by
  have fans : FansOut platform formatter position initial labels backend := by
    refine run.invariant_labels ?_ ?_
    · intro taken before label after stepped renders fans
      exact fans.step stepped renders
    · refine ⟨rfl, .empty, rfl, fun _ => ⟨initial, atPosition, ?_⟩⟩
      simp [faults, reaching]
  obtain ⟨sink, isSink, got⟩ := fans.received healthy
  have together : (faults labels).length =
      (backend.written.map Ticketed.item).length := by
    rw [List.length_map, fans.together]
  have misses_iff :
      reaching position (formatter.render platform) (faults labels)
          (backend.written.map Ticketed.item) =
        (backend.written.map Ticketed.item).map
          (formatter.render platform) ↔
      ∀ fault ∈ faults labels, ¬ fault.CutsOff position :=
    reaching_eq_iff together
  rw [← misses_iff]
  constructor
  · rintro ⟨other, isOther, all⟩
    obtain rfl := Option.some.inj (isSink.symm.trans isOther)
    have same := List.append_cancel_left (got.symm.trans all)
    rw [same, List.map_map]
    rfl
  · intro all
    refine ⟨sink, isSink, ?_⟩
    rw [got, all, List.map_map]
    rfl

/-- A sink behind the healthy one throws. -/
theorem receivesAll_iff_behind :
    ∃ backend, (asyncMachine Unit Unit (Output.emitter Platform.epoch) 1
        .block { formatter := .make "%m".toList, sinks := [{}, {}] }).Run
          OnlySinksThrow
          (.make 1 .block
            { formatter := .make "%m".toList, sinks := [{}, {}] })
          [.logPush () { message := "a".toList }, .logCount (),
            .workerCheck, .workerPop, .workerWrite { sinks := [1] }]
          backend ∧
      backend.written.length = 1 ∧
      ReceivesAll Platform.epoch (.make "%m".toList) 0 {} backend := by
  obtain ⟨backend, run, written⟩ := Machine.exists_run
    (asyncMachine Unit Unit (Output.emitter Platform.epoch) 1 .block
      { formatter := .make "%m".toList, sinks := [{}, {}] })
    OnlySinksThrow
    (.make 1 .block { formatter := .make "%m".toList, sinks := [{}, {}] })
    [.logPush () { message := "a".toList }, .logCount (),
      .workerCheck, .workerPop, .workerWrite { sinks := [1] }]
    (fun backend => backend.written.length = 1) (by decide +kernel)
  exact ⟨backend, run, written,
    (receivesAll_iff rfl run (by decide)).mpr (by decide)⟩

/-- The first of two sinks throws, and the second one, which does not, never
sees the record. -/
theorem healthy_sink_starves :
    ∃ labels backend, (asyncMachine Unit Unit
        (Output.emitter Platform.epoch) 1 .block
        { formatter := .make "%m".toList, sinks := [{}, {}] }).Run
          OnlySinksThrow
          (.make 1 .block
            { formatter := .make "%m".toList, sinks := [{}, {}] })
          labels backend ∧
      (∀ fault ∈ faults labels, fault.Healthy 1) ∧
      ¬ ReceivesAll Platform.epoch (.make "%m".toList) 1 {} backend := by
  obtain ⟨backend, run, starves⟩ := Machine.exists_run
    (asyncMachine Unit Unit (Output.emitter Platform.epoch) 1 .block
      { formatter := .make "%m".toList, sinks := [{}, {}] })
    OnlySinksThrow
    (.make 1 .block { formatter := .make "%m".toList, sinks := [{}, {}] })
    [.logPush () { message := "a".toList }, .logCount (),
      .workerCheck, .workerPop, .workerWrite { sinks := [0] }]
    (fun backend =>
      ¬ ReceivesAll Platform.epoch (.make "%m".toList) 1 {} backend)
    (by decide +kernel)
  exact ⟨_, backend, run, by decide, starves⟩

end LogParse
