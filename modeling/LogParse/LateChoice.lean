import LogParse.LateLogger

/-!
# Every line on schedule can be written

A late logger that always writes at once what is to be written in the current
pattern never has to wait with a call.  So the lines it can write for a
program are exactly those on the schedule of the program.
-/

namespace LogParse

section Lists

variable {α β : Type} {related : α → β → Prop}

theorem forall₂_append_left {xs ys : List α} {zs : List β}
    (pairs : List.Forall₂ related (xs ++ ys) zs) :
    ∃ us vs, zs = us ++ vs ∧ List.Forall₂ related xs us ∧
      List.Forall₂ related ys vs := by
  refine ⟨zs.take xs.length, zs.drop xs.length,
    (List.take_append_drop _ _).symm, ?_, ?_⟩
  · simpa using List.forall₂_take xs.length pairs
  · simpa using List.forall₂_drop xs.length pairs

theorem forall₂_append_right {xs ys : List α} {us vs : List β}
    (pairs : List.Forall₂ related (xs ++ ys) (us ++ vs))
    (lengths : xs.length = us.length) : List.Forall₂ related ys vs := by
  obtain ⟨first, second, split, isFirst, isSecond⟩ :=
    forall₂_append_left pairs
  obtain ⟨_, rfl⟩ := List.append_inj split
    (lengths.symm.trans isFirst.length_eq)
  exact isSecond

theorem forall₂_imp_mem {other : α → β → Prop} {xs : List α} {ys : List β}
    (pairs : List.Forall₂ related xs ys)
    (implies : ∀ x ∈ xs, ∀ y ∈ ys, related x y → other x y) :
    List.Forall₂ other xs ys := by
  rw [List.forall₂_iff_zip] at pairs ⊢
  refine ⟨pairs.1, fun {x y} isPair => ?_⟩
  obtain ⟨left, right⟩ := List.of_mem_zip isPair
  exact implies x left y right (pairs.2 isPair)

end Lists

namespace LateLogger

variable {platform : Platform} {config : Config} {schedule : Schedule}
  {front back : List Draft} {written : List (Nat × Text)}
  {logger : LateLogger}

namespace OnSchedule

/-- A call has to wait only for a draft whose window it closes. -/
theorem enabled_or_closes {capacity : Nat}
    (onSchedule : logger.OnSchedule platform capacity schedule front back
      written) (command : Command) :
    (∃ next, logger.call capacity command = some next) ∨
    ∃ (touched : List Draft) (closed : Draft) (others : List Draft),
      (schedule.call capacity command).drafts =
        touched ++ closed :: others ∧ touched.length = written.length ∧
      back ≠ [] ∧ closed.room = 0 ∧ closed.latest = schedule.now := by
  have lengths := onSchedule.permits.allowed.length_eq
  have level := onSchedule.level
  have backlog := onSchedule.backlog
  have split := onSchedule.split
  cases command with
  | log recordLevel record =>
      simp only [LateLogger.call, Schedule.call, level]
      split
      · exact .inl ⟨_, rfl⟩
      · split
        · exact .inl ⟨_, rfl⟩
        · rename_i isFull
          right
          rw [← backlog, List.length_map] at isFull
          have fits := onSchedule.fits
          have waiting := onSchedule.waiting
          cases back with
          | nil => simp at isFull
          | cons draft rest =>
              obtain ⟨_, latest, room, _⟩ := waiting
              simp only [List.length_cons] at isFull fits
              refine ⟨front.map Draft.logged, draft.logged,
                rest.map Draft.logged ++
                  [.fresh capacity schedule.now record],
                ?_, ?_, ?_, ?_, latest⟩
              · simp [split]
              · simpa using lengths
              · simp
              · simp only [Draft.logged]
                omega
  | setLevel | setPattern => exact .inl ⟨_, rfl⟩
  | flush =>
      simp only [LateLogger.call, Schedule.call]
      split
      · exact .inl ⟨_, rfl⟩
      · rename_i notEmpty
        right
        have waiting := onSchedule.waiting
        cases back with
        | nil => exact absurd backlog.symm notEmpty
        | cons draft rest =>
            obtain ⟨_, latest, _, _⟩ := waiting
            refine ⟨front.map Draft.flushed, draft.flushed,
              rest.map Draft.flushed, ?_, ?_, ?_, rfl, latest⟩
            · simp [split]
            · simpa using lengths
            · simp

/-- What is chosen for a draft that waits now, or that a later call makes. -/
def Chosen (platform : Platform) (patterns : List Text) (now : Nat)
    (draft : Draft) (line : Nat × Text) : Prop :=
  now ≤ line.1 ∧ ∃ pattern ∈ patterns[line.1]?,
    line.2 = meaning platform draft.record pattern ++ ['\n']

/-- The logger writes all lines at once for which the current pattern is
chosen. -/
theorem catchUp {patterns : List Text} {mine : List (Nat × Text)}
    (onSchedule : logger.OnSchedule platform config.queueCapacity schedule
      front back written)
    (sofar : schedule.patterns <+: patterns)
    (chosen : List.Forall₂ (Chosen platform patterns schedule.now) back mine)
    (ascending : (mine.map Prod.fst).Pairwise (· ≤ ·)) :
    ∃ labels next front back done later,
      (lateMachine platform config).Run Machine.Free logger labels next ∧
      labels.filterMap LateLabel.command? = [] ∧
      next.OnSchedule platform config.queueCapacity schedule front back
        (written ++ done) ∧
      mine = done ++ later ∧ later.length = back.length ∧
      ∀ line ∈ later, schedule.now < line.1 := by
  induction chosen generalizing logger front written with
  | nil =>
      exact ⟨[], logger, front, [], [], [], .nil, rfl,
        by simpa using onSchedule, rfl, rfl, by simp⟩
  | @cons draft line back mine first others induction =>
      rw [List.map_cons, List.pairwise_cons] at ascending
      obtain ⟨notEarlier, pattern, isPattern, text⟩ := first
      rcases Nat.lt_or_eq_of_le notEarlier with isLater | isNow
      · refine ⟨[], logger, front, draft :: back, [], line :: mine, .nil,
          rfl, by simpa using onSchedule, rfl, ?_, ?_⟩
        · simp [others.length_eq]
        · intro other member
          rcases List.mem_cons.mp member with rfl | member
          · exact isLater
          · exact Nat.lt_of_lt_of_le isLater
              (ascending.1 _ (List.mem_map_of_mem member))
      · have current : patterns[schedule.now]? = some schedule.pattern := by
          obtain ⟨others, rfl⟩ := sofar
          simp [Schedule.patterns]
        rw [← isNow, current] at isPattern
        obtain rfl := Option.some.inj isPattern
        have wrote : ∃ next, logger.write platform = some next := by
          simp [LateLogger.write, ← onSchedule.backlog]
        obtain ⟨middle, wrote⟩ := wrote
        have moved := onSchedule.write wrote
        rw [← text, isNow] at moved
        obtain ⟨labels, next, front, back, done, later, run, noCalls, arrived,
          rfl, lengths, ahead⟩ := induction moved ascending.2
        refine ⟨.write :: labels, next, front, back, line :: done, later,
          (Machine.Run.single trivial wrote).append run, noCalls, ?_, rfl,
          lengths, ahead⟩
        simpa using arrived

section Choice

variable {next : LateLogger} {command : Command} {program : List Command}
  {mine others : List (Nat × Text)}

/-- A call need not wait if the lines chosen for a later pattern are all that
is left. -/
theorem enabled
    (onSchedule : logger.OnSchedule platform config.queueCapacity schedule
      front back written)
    (permits : Schedule.Permits platform
      (schedule.calls config.queueCapacity (command :: program)).patterns
      (schedule.calls config.queueCapacity (command :: program)).drafts
      (written ++ (mine ++ others)))
    (lengths : mine.length = back.length)
    (ahead : ∀ line ∈ mine, schedule.now < line.1) :
    ∃ next, logger.call config.queueCapacity command = some next := by
  rcases onSchedule.enabled_or_closes command with enabled |
    ⟨touched, closed, closing, split, touchedLength, notEmpty, noRoom, latest⟩
  · exact enabled
  · exfalso
    obtain ⟨touch, new, drafts, grows⟩ :=
      (schedule.call config.queueCapacity command).exists_calls_drafts
        config.queueCapacity program
    have allowed : List.Forall₂ _ _ _ := permits.allowed
    change List.Forall₂ _ ((schedule.call config.queueCapacity command).calls
      config.queueCapacity program).drafts _ at allowed
    rw [drafts, split, List.map_append, List.append_assoc] at allowed
    have pending := forall₂_append_right allowed (by simpa)
    cases mine with
    | nil => exact notEmpty (List.length_eq_zero_iff.mp lengths.symm)
    | cons line mine =>
        cases pending with
        | cons allows _ =>
            have within := allows.2.1
            rw [((grows closed).closed noRoom).1, latest] at within
            have isLater := ahead line List.mem_cons_self
            omega

/-- The call adds the draft of a line that is not chosen for an older
pattern. -/
theorem chosen_call
    (onSchedule : logger.OnSchedule platform config.queueCapacity schedule
      front back written)
    (called : logger.call config.queueCapacity command = some next)
    (permits : Schedule.Permits platform
      (schedule.calls config.queueCapacity (command :: program)).patterns
      (schedule.calls config.queueCapacity (command :: program)).drafts
      (written ++ (mine ++ others)))
    (lengths : mine.length = back.length)
    (ahead : ∀ line ∈ mine, schedule.now < line.1) :
    ∃ front back fresh later,
      next.OnSchedule platform config.queueCapacity
        (schedule.call config.queueCapacity command) front back written ∧
      others = fresh ++ later ∧
      List.Forall₂ (Chosen platform
        (schedule.calls config.queueCapacity (command :: program)).patterns
        (schedule.call config.queueCapacity command).now) back
        (mine ++ fresh) := by
  obtain ⟨first, added, callDrafts, callGrows, notOlder⟩ :=
    schedule.exists_call_drafts config.queueCapacity command
  obtain ⟨touch, new, drafts, grows⟩ :=
    (schedule.call config.queueCapacity command).exists_calls_drafts
      config.queueCapacity program
  obtain ⟨nextFront, nextBack, moved⟩ := onSchedule.call called
  have frontLength := onSchedule.permits.allowed.length_eq
  have backEq : nextBack = back.map first ++ added := by
    have split := moved.split
    rw [callDrafts, onSchedule.split, List.map_append, List.append_assoc]
      at split
    refine (List.append_inj split ?_).2.symm
    rw [List.length_map, frontLength, moved.permits.allowed.length_eq]
  have allowed : List.Forall₂ _ _ _ := permits.allowed
  change List.Forall₂ _ ((schedule.call config.queueCapacity command).calls
    config.queueCapacity program).drafts _ at allowed
  rw [drafts, callDrafts, onSchedule.split, List.map_append, List.map_append,
    List.map_append, List.append_assoc, List.append_assoc] at allowed
  have pending := forall₂_append_right allowed (by simpa)
  obtain ⟨us, vs, splits, isMine, isOthers⟩ := forall₂_append_left pending
  obtain ⟨rfl, rfl⟩ := List.append_inj splits (by
    rw [lengths, ← isMine.length_eq]
    simp)
  obtain ⟨fresh, later, rfl, isFresh, _⟩ := forall₂_append_left isOthers
  refine ⟨nextFront, nextBack, fresh, later, moved, rfl, ?_⟩
  rw [backEq]
  refine List.rel_append ?_ ?_
  · rw [List.map_map, List.forall₂_map_left_iff] at isMine
    rw [List.forall₂_map_left_iff]
    apply forall₂_imp_mem isMine
    rintro draft _ line isLine ⟨_, _, pattern, isPattern, text⟩
    have isLater := ahead line isLine
    have soon := schedule.now_call_le config.queueCapacity command
    refine ⟨by omega, pattern, isPattern, ?_⟩
    rw [text, Function.comp_apply, (grows _).record]
  · rw [List.forall₂_map_left_iff] at isFresh
    apply forall₂_imp_mem isFresh
    rintro draft isAdded line _ ⟨earliest, _, pattern, isPattern, text⟩
    rw [(grows draft).earliest] at earliest
    refine ⟨(notOlder draft isAdded).trans earliest, pattern, isPattern, ?_⟩
    rw [text, (grows draft).record]

/-- What is chosen for a program can be written while it is run. -/
theorem exists_run
    (onSchedule : logger.OnSchedule platform config.queueCapacity schedule
      front back written)
    (permits : Schedule.Permits platform
      (schedule.calls config.queueCapacity program).patterns
      (schedule.calls config.queueCapacity program).drafts
      (written ++ (mine ++ others)))
    (lengths : mine.length = back.length)
    (ahead : ∀ line ∈ mine, schedule.now < line.1) :
    ∃ labels last,
      (lateMachine platform config).Run Machine.Free logger labels last ∧
      labels.filterMap LateLabel.command? = program ∧ last.backlog = [] ∧
      last.lines = (written ++ (mine ++ others)).map Prod.snd := by
  induction program generalizing logger schedule front back written mine
      others with
  | nil =>
      have allowed : List.Forall₂ _ schedule.drafts _ := permits.allowed
      rw [onSchedule.split] at allowed
      have pending := forall₂_append_right allowed
        onSchedule.permits.allowed.length_eq
      cases back with
      | nil =>
          obtain rfl := List.length_eq_zero_iff.mp lengths
          rw [List.nil_append, List.forall₂_nil_left_iff] at pending
          subst pending
          refine ⟨[], logger, .nil, rfl, onSchedule.backlog.symm, ?_⟩
          simpa using onSchedule.lines
      | cons draft back =>
          obtain ⟨_, latest, _, _⟩ := onSchedule.waiting
          cases mine with
          | nil => simp at lengths
          | cons line mine =>
              cases pending with
              | cons allows _ =>
                  have isLater := ahead line List.mem_cons_self
                  have within := allows.2.1
                  omega
  | cons command program induction =>
      obtain ⟨next, called⟩ := onSchedule.enabled permits lengths ahead
      obtain ⟨front, back, fresh, later, moved, rfl, chosen⟩ :=
        onSchedule.chosen_call called permits lengths ahead
      rw [← List.append_assoc mine fresh later] at permits ⊢
      have ascending : ((mine ++ fresh).map Prod.fst).Pairwise (· ≤ ·) :=
        permits.ascending.sublist (((List.sublist_append_left _ _).trans
          (List.sublist_append_right _ _)).map _)
      obtain ⟨labels, middle, front, back, done, waiting, run, noCalls,
          arrived, split, backLength, stillAhead⟩ :=
        moved.catchUp (Schedule.patterns_prefix_calls _ program) chosen
          ascending
      rw [split, List.append_assoc, ← List.append_assoc written] at permits ⊢
      obtain ⟨more, last, continued, calls, empty, lines⟩ :=
        induction arrived permits backLength stillAhead
      refine ⟨.call command :: (labels ++ more), last, ?_, ?_, empty, lines⟩
      · exact (Machine.Run.single trivial called).append
          (run.append continued)
      · rw [List.filterMap_cons, List.filterMap_append, noCalls, calls]
        rfl

end Choice

end OnSchedule

/-- The lines a late logger can write for a program are those on its
schedule. -/
theorem writes_iff {program : List Command} {lines : List Text} :
    LateLogger.Writes platform config program lines ↔
      ∃ written, Schedule.Permits platform
        (Schedule.of config program).patterns
        (Schedule.of config program).drafts written ∧
        written.map Prod.snd = lines := by
  constructor
  · rintro ⟨labels, last, run, rfl, isEmpty, rfl⟩
    obtain ⟨front, back, written, onSchedule⟩ := onSchedule_of_run run
    have backlog := onSchedule.backlog
    rw [isEmpty, List.map_eq_nil_iff] at backlog
    have drafts := onSchedule.split
    rw [backlog, List.append_nil] at drafts
    rw [drafts]
    exact ⟨written, onSchedule.permits, onSchedule.lines.symm⟩
  · rintro ⟨written, permits, rfl⟩
    have fromStart : Schedule.Permits platform
        ((Schedule.make config).calls config.queueCapacity program).patterns
        ((Schedule.make config).calls config.queueCapacity program).drafts
        ([] ++ ([] ++ written)) := permits
    exact (onSchedule_make platform config).exists_run fromStart rfl (by simp)

variable (platform config) in
/-- A late logger that writes each record at once writes the transcript. -/
theorem exists_run_transcript (logger : LateLogger)
    (isEmpty : logger.backlog = []) (program : List Command) :
    ∃ labels last,
      (lateMachine platform config).Run Machine.Free logger labels last ∧
      labels.filterMap LateLabel.command? = program ∧ last.backlog = [] ∧
      last.lines = logger.lines ++
        transcript platform logger.level logger.pattern program := by
  induction program generalizing logger with
  | nil => exact ⟨[], logger, .nil, rfl, isEmpty, (List.append_nil _).symm⟩
  | cons command rest induction =>
      cases command with
      | log level record =>
          cases below : level.lt logger.level with
          | true =>
              obtain ⟨labels, last, run, rfl, stillEmpty, lines⟩ :=
                induction logger isEmpty
              refine ⟨.call (.log level record) :: labels, last,
                (Machine.Run.single trivial ?_).append run, rfl, stillEmpty,
                ?_⟩
              · simp [lateMachine, LateLogger.step, LateLogger.call, below]
              · simpa [transcript, below] using lines
          | false =>
              let line := meaning platform record logger.pattern ++ ['\n']
              let waiting : LateLogger := { logger with backlog := [record] }
              let written : LateLogger :=
                { logger with lines := logger.lines ++ [line] }
              have called : (lateMachine platform config).step logger
                  (.call (.log level record)) = some waiting := by
                simp [lateMachine, LateLogger.step, LateLogger.call, below,
                  isEmpty, waiting]
              have wrote : (lateMachine platform config).step waiting
                  .write = some written := by
                simp [lateMachine, LateLogger.step, LateLogger.write, isEmpty,
                  waiting, written, line]
              obtain ⟨labels, last, run, rfl, stillEmpty, lines⟩ :=
                induction written isEmpty
              refine ⟨.call (.log level record) :: .write :: labels, last,
                (Machine.Run.single trivial called).append
                  ((Machine.Run.single trivial wrote).append run), rfl,
                stillEmpty, ?_⟩
              simpa [transcript, below, written, line] using lines
      | setLevel level =>
          obtain ⟨labels, last, run, rfl, stillEmpty, lines⟩ :=
            induction { logger with level := level } isEmpty
          exact ⟨.call (.setLevel level) :: labels, last,
            (Machine.Run.single trivial rfl).append run, rfl, stillEmpty,
            lines⟩
      | flush =>
          obtain ⟨labels, last, run, rfl, stillEmpty, lines⟩ :=
            induction logger isEmpty
          refine ⟨.call .flush :: labels, last,
            (Machine.Run.single trivial ?_).append run, rfl, stillEmpty,
            lines⟩
          simp [lateMachine, LateLogger.step, LateLogger.call, isEmpty]
      | setPattern pattern =>
          obtain ⟨labels, last, run, rfl, stillEmpty, lines⟩ :=
            induction { logger with pattern := pattern } isEmpty
          exact ⟨.call (.setPattern pattern) :: labels, last,
            (Machine.Run.single trivial rfl).append run, rfl, stillEmpty,
            lines⟩

theorem writes_transcript (program : List Command) :
    LateLogger.Writes platform config program
      (transcript platform config.level config.pattern program) := by
  exact exists_run_transcript platform config (.make config) rfl program

end LateLogger

end LogParse
