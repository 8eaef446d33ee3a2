import LogParse.LoggerFiles

/-!
# A logger that writes late

An asynchronous logger applies the pattern when the worker writes a record,
not when the client logs it, so a pattern may come late for records logged
before.  `LateLogger` is such a logger without threads: the records it has not
written wait in a backlog, and `flush` waits until there is none.

A `Schedule` tells from the calls alone which patterns a line can be written
in.
-/

namespace LogParse

structure LateLogger where
  level : Level
  pattern : Text
  backlog : List LogRecord := []
  lines : List Text := []
  deriving DecidableEq, Repr

/-- A call of the client, or the oldest record of the backlog is written. -/
inductive LateLabel where
  | call (command : Command)
  | write
  deriving DecidableEq, Repr

def LateLabel.command? : LateLabel → Option Command
  | .call command => some command
  | .write => none

namespace LateLogger

def call (capacity : Nat) (logger : LateLogger) :
    Command → Option LateLogger
  | .log level record =>
      if level.lt logger.level then some logger
      else if logger.backlog.length ≤ capacity then
        some { logger with backlog := logger.backlog ++ [record] }
      else none
  | .setLevel level => some { logger with level := level }
  | .flush => if logger.backlog = [] then some logger else none
  | .setPattern pattern => some { logger with pattern := pattern }

def write (platform : Platform) (logger : LateLogger) : Option LateLogger :=
  match logger.backlog with
  | [] => none
  | record :: rest =>
      some { logger with
        backlog := rest
        lines := logger.lines ++
          [meaning platform record logger.pattern ++ ['\n']] }

def step (platform : Platform) (capacity : Nat) (logger : LateLogger) :
    LateLabel → Option LateLogger
  | .call command => logger.call capacity command
  | .write => logger.write platform

def make (config : Config) : LateLogger :=
  { level := config.level, pattern := config.pattern }

end LateLogger

def lateMachine (platform : Platform) (config : Config) :
    Machine LateLogger LateLabel where
  start := .make config
  step := LateLogger.step platform config.queueCapacity

/-- The logger can come to the end of the program with these lines. -/
def LateLogger.Writes (platform : Platform) (config : Config)
    (program : List Command) (lines : List Text) : Prop :=
  ∃ labels last,
    (lateMachine platform config).Run Machine.Free (.make config) labels
      last ∧
    labels.filterMap LateLabel.command? = program ∧
    last.backlog = [] ∧ last.lines = lines

/-- A record that was logged, the first and the last of the patterns its line
can be written in, and after how many more records it must have been
written. -/
structure Draft where
  record : LogRecord
  earliest : Nat
  latest : Nat
  room : Nat
  deriving DecidableEq, Repr

namespace Draft

/-- With the queue full, the worker has taken one more record out of it. -/
def fresh (capacity now : Nat) (record : LogRecord) : Draft :=
  { record := record, earliest := now, latest := now, room := capacity + 1 }

def logged (draft : Draft) : Draft := { draft with room := draft.room - 1 }

def flushed (draft : Draft) : Draft := { draft with room := 0 }

def patternSet (draft : Draft) : Draft :=
  if draft.room = 0 then draft
  else { draft with latest := draft.latest + 1 }

/-- A line, with the position of the pattern it was written in. -/
def Allows (platform : Platform) (patterns : List Text) (draft : Draft)
    (line : Nat × Text) : Prop :=
  draft.earliest ≤ line.1 ∧ line.1 ≤ draft.latest ∧
    ∃ pattern ∈ patterns[line.1]?,
      line.2 = meaning platform draft.record pattern ++ ['\n']

end Draft

structure Schedule where
  level : Level
  earlier : List Text := []
  pattern : Text
  drafts : List Draft := []
  deriving DecidableEq, Repr

namespace Schedule

/-- All patterns so far, the current one last. -/
def patterns (schedule : Schedule) : List Text :=
  schedule.earlier ++ [schedule.pattern]

/-- The position of the current pattern. -/
abbrev now (schedule : Schedule) : Nat := schedule.earlier.length

def call (capacity : Nat) (schedule : Schedule) : Command → Schedule
  | .log level record =>
      if level.lt schedule.level then schedule
      else
        { schedule with
          drafts := schedule.drafts.map Draft.logged ++
            [.fresh capacity schedule.now record] }
  | .setLevel level => { schedule with level := level }
  | .flush =>
      { schedule with drafts := schedule.drafts.map Draft.flushed }
  | .setPattern pattern =>
      { schedule with
        earlier := schedule.patterns
        pattern := pattern
        drafts := schedule.drafts.map Draft.patternSet }

def calls (capacity : Nat) (schedule : Schedule)
    (program : List Command) : Schedule :=
  program.foldl (call capacity) schedule

def make (config : Config) : Schedule :=
  { level := config.level, pattern := config.pattern }

/-- The schedule of a program. -/
def of (config : Config) (program : List Command) : Schedule :=
  (make config).calls config.queueCapacity program

/-- One line for each draft, none in an older pattern than the line before. -/
structure Permits (platform : Platform) (patterns : List Text)
    (drafts : List Draft) (written : List (Nat × Text)) : Prop where
  allowed : List.Forall₂ (Draft.Allows platform patterns) drafts written
  ascending : (written.map Prod.fst).Pairwise (· ≤ ·)

end Schedule

/-- The window of a draft with no room left stays as it is. -/
structure Draft.Grows (before after : Draft) : Prop where
  record : after.record = before.record
  earliest : after.earliest = before.earliest
  latest : before.latest ≤ after.latest
  closed : before.room = 0 → after.latest = before.latest ∧ after.room = 0

namespace Draft

theorem Grows.refl (draft : Draft) : draft.Grows draft :=
  ⟨rfl, rfl, Nat.le_refl _, fun noRoom => ⟨rfl, noRoom⟩⟩

theorem Grows.trans {first second third : Draft}
    (before : first.Grows second) (after : second.Grows third) :
    first.Grows third := by
  constructor
  · exact after.record.trans before.record
  · exact after.earliest.trans before.earliest
  · exact before.latest.trans after.latest
  · intro noRoom
    obtain ⟨latest, closed⟩ := before.closed noRoom
    rw [← latest]
    exact after.closed closed

theorem grows_logged (draft : Draft) : draft.Grows draft.logged :=
  ⟨rfl, rfl, Nat.le_refl _, fun noRoom => ⟨rfl, by simp [logged, noRoom]⟩⟩

theorem grows_flushed (draft : Draft) : draft.Grows draft.flushed :=
  ⟨rfl, rfl, Nat.le_refl _, fun _ => ⟨rfl, rfl⟩⟩

theorem grows_patternSet (draft : Draft) : draft.Grows draft.patternSet := by
  unfold patternSet
  split
  · exact .refl draft
  · rename_i roomLeft
    exact ⟨rfl, rfl, Nat.le_succ _, fun noRoom => absurd noRoom roomLeft⟩

theorem Allows.grow {platform : Platform} {before after : Draft}
    {patterns later : List Text} {line : Nat × Text}
    (allows : before.Allows platform patterns line)
    (grows : before.Grows after) (sofar : patterns <+: later) :
    after.Allows platform later line := by
  obtain ⟨earliest, latest, pattern, isPattern, text⟩ := allows
  refine ⟨by rw [grows.earliest]; exact earliest,
    latest.trans grows.latest, pattern, ?_, by rw [grows.record]; exact text⟩
  obtain ⟨rest, rfl⟩ := sofar
  have within : line.1 < patterns.length :=
    (List.getElem?_eq_some_iff.mp isPattern).1
  rw [List.getElem?_append_left within]
  exact isPattern

end Draft

namespace Schedule

variable {capacity : Nat} {platform : Platform}

theorem length_patterns (schedule : Schedule) :
    schedule.patterns.length = schedule.now + 1 := by
  simp [patterns]

theorem patterns_prefix_call (schedule : Schedule) (command : Command) :
    schedule.patterns <+: (schedule.call capacity command).patterns := by
  cases command with
  | log level record =>
      simp only [call]
      split <;> exact List.prefix_rfl
  | setLevel | flush => exact List.prefix_rfl
  | setPattern pattern => exact List.prefix_append _ _

theorem patterns_prefix_calls (schedule : Schedule)
    (program : List Command) :
    schedule.patterns <+: (schedule.calls capacity program).patterns := by
  induction program generalizing schedule with
  | nil => exact List.prefix_rfl
  | cons command rest induction =>
      exact (schedule.patterns_prefix_call command).trans (induction _)

theorem now_le_call (schedule : Schedule) (command : Command) :
    schedule.now ≤ (schedule.call capacity command).now := by
  have sofar : schedule.patterns <+:
      (schedule.call capacity command).patterns :=
    schedule.patterns_prefix_call command
  have lengths := sofar.length_le
  rw [length_patterns, length_patterns] at lengths
  omega

theorem now_call_le (schedule : Schedule) (capacity : Nat)
    (command : Command) :
    (schedule.call capacity command).now ≤ schedule.now + 1 := by
  cases command with
  | log level record =>
      simp only [call]
      split <;> exact Nat.le_succ _
  | setLevel | flush => exact Nat.le_succ _
  | setPattern pattern => exact Nat.le_of_eq schedule.length_patterns

/-- A call changes the drafts that are there each on its own, and adds no
older ones. -/
theorem exists_call_drafts (schedule : Schedule) (capacity : Nat)
    (command : Command) :
    ∃ (touch : Draft → Draft) (new : List Draft),
      (schedule.call capacity command).drafts =
        schedule.drafts.map touch ++ new ∧
      (∀ draft : Draft, draft.Grows (touch draft)) ∧
      ∀ draft ∈ new, (schedule.call capacity command).now ≤
        draft.earliest := by
  cases command with
  | log level record =>
      simp only [call]
      split
      · exact ⟨id, [], by simp, Draft.Grows.refl, by simp⟩
      · exact ⟨Draft.logged, _, rfl, Draft.grows_logged,
          by simp [Draft.fresh]⟩
  | setLevel level => exact ⟨id, [], by simp [call], Draft.Grows.refl, by simp⟩
  | flush =>
      exact ⟨Draft.flushed, [], by simp [call], Draft.grows_flushed, by simp⟩
  | setPattern pattern =>
      exact ⟨Draft.patternSet, [], by simp [call], Draft.grows_patternSet,
        by simp⟩

theorem exists_calls_drafts (schedule : Schedule) (capacity : Nat)
    (program : List Command) :
    ∃ (touch : Draft → Draft) (new : List Draft),
      (schedule.calls capacity program).drafts =
        schedule.drafts.map touch ++ new ∧
      ∀ draft : Draft, draft.Grows (touch draft) := by
  induction program generalizing schedule with
  | nil => exact ⟨id, [], by simp [calls], Draft.Grows.refl⟩
  | cons command rest induction =>
      obtain ⟨first, added, drafts, grows, _⟩ :=
        schedule.exists_call_drafts capacity command
      obtain ⟨next, new, laterDrafts, laterGrows⟩ :=
        induction (schedule.call capacity command)
      refine ⟨next ∘ first, added.map next ++ new, ?_, ?_⟩
      · change ((schedule.call capacity command).calls capacity rest).drafts
          = _
        rw [laterDrafts, drafts]
        simp
      · intro draft
        exact (grows draft).trans (laterGrows _)

theorem Permits.grow {patterns later : List Text} {drafts : List Draft}
    {written : List (Nat × Text)}
    (permits : Permits platform patterns drafts written)
    {touch : Draft → Draft}
    (grows : ∀ draft : Draft, draft.Grows (touch draft))
    (sofar : patterns <+: later) :
    Permits platform later (drafts.map touch) written := by
  refine ⟨?_, permits.ascending⟩
  rw [List.forall₂_map_left_iff]
  exact permits.allowed.imp fun draft _ allows =>
    allows.grow (grows draft) sofar

end Schedule

/-- The drafts in the backlog can still get the current pattern. -/
def Waiting (capacity now : Nat) : List Draft → Prop
  | [] => True
  | draft :: rest =>
      draft.earliest ≤ now ∧ draft.latest = now ∧
        draft.room = capacity + 1 - rest.length ∧ Waiting capacity now rest

namespace Waiting

variable {capacity now : Nat} {backlog : List Draft}

theorem logged (waiting : Waiting capacity now backlog)
    (record : LogRecord) :
    Waiting capacity now
      (backlog.map Draft.logged ++ [.fresh capacity now record]) := by
  induction backlog with
  | nil => simp [Waiting, Draft.fresh]
  | cons draft rest induction =>
      obtain ⟨earliest, latest, room, later⟩ := waiting
      refine ⟨earliest, latest, ?_, induction later⟩
      simp [Draft.logged, room]
      omega

theorem patternSet (waiting : Waiting capacity now backlog)
    (fits : backlog.length ≤ capacity + 1) :
    Waiting capacity (now + 1) (backlog.map Draft.patternSet) := by
  induction backlog with
  | nil => trivial
  | cons draft rest induction =>
      obtain ⟨earliest, latest, room, later⟩ := waiting
      have fewer : rest.length + 1 ≤ capacity + 1 := fits
      have open_ : draft.room ≠ 0 := by omega
      simp only [List.map_cons, Draft.patternSet, if_neg open_]
      refine ⟨by simp; omega, by simp [latest], by simp [room], ?_⟩
      exact induction later (by omega)

end Waiting

/-- A late logger with the drafts of what it has written and of what it has
not. -/
structure LateLogger.OnSchedule (platform : Platform) (capacity : Nat)
    (schedule : Schedule) (front back : List Draft)
    (written : List (Nat × Text)) (logger : LateLogger) : Prop where
  level : logger.level = schedule.level
  pattern : logger.pattern = schedule.pattern
  lines : logger.lines = written.map Prod.snd
  split : schedule.drafts = front ++ back
  permits : Schedule.Permits platform schedule.patterns front written
  bounded : ∀ line ∈ written, line.1 ≤ schedule.now
  backlog : back.map Draft.record = logger.backlog
  waiting : Waiting capacity schedule.now back
  fits : back.length ≤ capacity + 1

namespace LateLogger.OnSchedule

variable {platform : Platform} {capacity : Nat} {schedule : Schedule}
  {front back : List Draft} {written : List (Nat × Text)}
  {logger next : LateLogger} {command : Command}

theorem call (onSchedule : logger.OnSchedule platform capacity schedule front
      back written)
    (called : logger.call capacity command = some next) :
    ∃ front back, next.OnSchedule platform capacity
      (schedule.call capacity command) front back written := by
  obtain ⟨level, pattern, lines, split, permits, bounded, backlog, waiting,
    fits⟩ := onSchedule
  have length : back.length = logger.backlog.length := by
    rw [← backlog, List.length_map]
  cases command with
  | log recordLevel record =>
      simp only [LateLogger.call, level] at called
      simp only [Schedule.call]
      split at called
      · rename_i below
        cases called
        rw [if_pos below]
        exact ⟨front, back, level, pattern, lines, split, permits, bounded,
          backlog, waiting, fits⟩
      · rename_i above
        rw [if_neg above]
        split at called
        · rename_i hasRoom
          cases called
          refine ⟨front.map Draft.logged, _, rfl, pattern, lines, ?_,
            permits.grow Draft.grows_logged List.prefix_rfl, bounded, ?_,
            waiting.logged record, ?_⟩
          · simp [split]
          · simp [← backlog, Draft.logged, Draft.fresh, Function.comp_def]
          · simp
            omega
        · cases called
  | setLevel newLevel =>
      cases called
      exact ⟨front, back, rfl, pattern, lines, split, permits, bounded,
        backlog, waiting, fits⟩
  | flush =>
      simp only [LateLogger.call] at called
      split at called
      · rename_i isEmpty
        cases called
        obtain rfl : back = [] := by
          rw [isEmpty] at length
          exact List.length_eq_zero_iff.mp length
        refine ⟨front.map Draft.flushed, [], level, pattern, lines, ?_,
          permits.grow Draft.grows_flushed List.prefix_rfl, bounded, backlog,
          trivial, fits⟩
        simp [Schedule.call, split]
      · cases called
  | setPattern newPattern =>
      cases called
      refine ⟨front.map Draft.patternSet, back.map Draft.patternSet, level,
        rfl, lines, ?_, ?_, ?_, ?_, ?_, ?_⟩
      · simp [Schedule.call, split]
      · exact permits.grow Draft.grows_patternSet
          (schedule.patterns_prefix_call _)
      · intro line isWritten
        exact (bounded line isWritten).trans (schedule.now_le_call _)
      · rw [← backlog, List.map_map]
        apply List.map_congr_left
        intro draft _
        exact draft.grows_patternSet.record
      · have later := waiting.patternSet fits
        rw [← schedule.length_patterns] at later
        exact later
      · simpa using fits

/-- The oldest record is written, in the current pattern. -/
theorem write {draft : Draft}
    (onSchedule : logger.OnSchedule platform capacity schedule front
      (draft :: back) written)
    (wrote : logger.write platform = some next) :
    next.OnSchedule platform capacity schedule (front ++ [draft]) back
      (written ++ [(schedule.now, meaning platform draft.record
        schedule.pattern ++ ['\n'])]) := by
  obtain ⟨level, pattern, lines, split, permits, bounded, backlog, waiting,
    fits⟩ := onSchedule
  obtain ⟨earliest, latest, _, later⟩ := waiting
  rw [List.map_cons] at backlog
  simp only [LateLogger.write, ← backlog] at wrote
  cases wrote
  refine ⟨level, pattern, ?_, ?_, ⟨?_, ?_⟩, ?_, rfl, later, ?_⟩
  · rw [lines, pattern, List.map_append]
    rfl
  · rw [split, List.append_assoc]
    rfl
  · refine List.rel_append permits.allowed (.cons ?_ .nil)
    refine ⟨earliest, Nat.le_of_eq latest.symm, schedule.pattern, ?_, rfl⟩
    simp [Schedule.patterns]
  · rw [List.map_append, List.pairwise_append]
    refine ⟨permits.ascending, List.pairwise_singleton _ _, ?_⟩
    intro position isWritten current isCurrent
    obtain ⟨line, member, rfl⟩ := List.mem_map.mp isWritten
    rw [List.mem_singleton.mp isCurrent]
    exact bounded line member
  · intro line isWritten
    rcases List.mem_append.mp isWritten with before | isLast
    · exact bounded line before
    · rw [List.mem_singleton.mp isLast]
  · exact Nat.le_of_succ_le fits

/-- What a logger can do next it can do on schedule. -/
theorem step {label : LateLabel}
    (onSchedule : logger.OnSchedule platform capacity schedule front back
      written)
    (stepped : logger.step platform capacity label = some next) :
    ∃ front back written, next.OnSchedule platform capacity
      (schedule.calls capacity label.command?.toList) front back written := by
  cases label with
  | call command =>
      obtain ⟨front, back, called⟩ := onSchedule.call stepped
      exact ⟨front, back, written, called⟩
  | write =>
      cases back with
      | nil =>
          have nothing := onSchedule.backlog
          simp only [LateLogger.step, LateLogger.write, ← nothing,
            List.map_nil] at stepped
          cases stepped
      | cons draft back => exact ⟨_, _, _, onSchedule.write stepped⟩

end LateLogger.OnSchedule

theorem LateLogger.onSchedule_make (platform : Platform) (config : Config) :
    (make config).OnSchedule platform config.queueCapacity (.make config) []
      [] [] :=
  ⟨rfl, rfl, rfl, rfl, ⟨.nil, .nil⟩, by simp, rfl, trivial, Nat.zero_le _⟩

/-- The lines of every run are on the schedule of its calls. -/
theorem LateLogger.onSchedule_of_run {platform : Platform} {config : Config}
    {labels : List LateLabel} {logger : LateLogger}
    (run : (lateMachine platform config).Run Machine.Free (.make config)
      labels logger) :
    ∃ front back written, logger.OnSchedule platform config.queueCapacity
      (.of config (labels.filterMap LateLabel.command?)) front back
        written := by
  apply run.invariant_labels
  · rintro taken before label after stepped _
      ⟨front, back, written, sofar⟩
    obtain ⟨front, back, written, later⟩ := sofar.step stepped
    refine ⟨front, back, written, ?_⟩
    rw [List.filterMap_append, Schedule.of, Schedule.calls,
      List.foldl_append]
    cases label <;> exact later
  · exact ⟨[], [], [], onSchedule_make platform config⟩

end LogParse
