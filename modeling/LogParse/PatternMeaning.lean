import LogParse.Formatter
import LogParse.Library.Machine
import Mathlib.Tactic.Common

/-!
# What a pattern means

The meaning of a pattern on a record is defined by recursion from the left,
without tokens, pending literals or a cache.  The compiled pattern renders it,
and so does every call of `format` in every history of the formatters that
share the cache of a thread.
-/

namespace LogParse

section Meaning

variable (platform : Platform) (record : LogRecord)

/-- What `%` and a letter stand for. -/
def specifierMeaning (letter : Char) : Text :=
  let tm := platform.localTime (platform.toTimeT record.timestamp)
  match letter with
  | 'Y' => platform.formatTime "%Y".toList tm
  | 'd' => platform.formatTime "%d".toList tm
  | 'H' => platform.formatTime "%H".toList tm
  | 'M' => platform.formatTime "%M".toList tm
  | 'S' => platform.formatTime "%S".toList tm
  | 'l' | 'L' => record.level.toString
  | 't' => Nat.toDigits 10 (platform.hashThreadId record.threadId)
  | 'p' => Nat.toDigits 10 record.processId
  | 'f' => record.file
  | 'F' => record.function
  | '#' => Nat.toDigits 10 record.line
  | 'n' => record.loggerName
  | 'm' | 'v' => record.message
  | '%' => ['%']
  | other => ['%', other]

def meaning (pattern : Text) : Text :=
  match pattern with
  | [] => []
  | ch :: rest =>
      if timestampPattern.isPrefixOf (ch :: rest) then
        renderTimestamp platform (platform.toTimeT record.timestamp) ++
          meaning (rest.drop (timestampPattern.length - 1))
      else if ch = '%' then
        match rest with
        | [] => ['%']
        | letter :: rest =>
            specifierMeaning platform record letter ++ meaning rest
      else ch :: meaning rest
  termination_by pattern.length

variable {platform record} {rest : Text}

@[simp] theorem meaning_nil : meaning platform record [] = [] := by
  rw [meaning]

theorem meaning_timestamp {ch : Char}
    (stamped : timestampPattern.isPrefixOf (ch :: rest) = true) :
    meaning platform record (ch :: rest) =
      renderTimestamp platform (platform.toTimeT record.timestamp) ++
        meaning platform record
          (rest.drop (timestampPattern.length - 1)) := by
  rw [meaning.eq_def]
  exact if_pos stamped

/-- Only a percent sign can start a timestamp, and not one before another. -/
theorem isPrefixOf_timestampPattern {text : Text}
    (stamped : timestampPattern.isPrefixOf text = true) :
    ∃ rest, text = '%' :: 'Y' :: rest := by
  have spelled :
      timestampPattern = '%' :: 'Y' :: timestampPattern.drop 2 := by
    decide
  rw [spelled, List.isPrefixOf_iff_prefix] at stamped
  obtain ⟨rest, rfl⟩ := stamped
  exact ⟨timestampPattern.drop 2 ++ rest, rfl⟩

theorem meaning_plain {ch : Char} (plain : ch ≠ '%') :
    meaning platform record (ch :: rest) =
      ch :: meaning platform record rest := by
  have unstamped : ¬ timestampPattern.isPrefixOf (ch :: rest) = true := by
    intro stamped
    obtain ⟨_, same⟩ := isPrefixOf_timestampPattern stamped
    exact plain (List.cons.inj same).1
  rw [meaning.eq_def]
  simp only [if_neg unstamped, if_neg plain]

theorem meaning_percent :
    meaning platform record ['%'] = ['%'] := by
  have unstamped : ¬ timestampPattern.isPrefixOf ['%'] = true := by
    decide
  rw [meaning.eq_def]
  simp only [if_neg unstamped, if_true]

theorem meaning_specifier {letter : Char}
    (unstamped : ¬ timestampPattern.isPrefixOf ('%' :: letter :: rest)) :
    meaning platform record ('%' :: letter :: rest) =
      specifierMeaning platform record letter ++
        meaning platform record rest := by
  rw [meaning.eq_def]
  simp only [if_neg unstamped, if_true]

end Meaning

namespace Compiling

variable (platform : Platform) (record : LogRecord)

/-- What the tokens and the pending literal render together. -/
def rendering (state : Compiling) : Text :=
  (state.tokens.flatMap fun token =>
    Formatter.renderToken platform token record) ++ state.literal

variable {platform record} (state : Compiling)

@[simp] theorem rendering_empty :
    rendering platform record {} = [] := rfl

@[simp] theorem literal_flushLiteral : state.flushLiteral.literal = [] := by
  unfold flushLiteral
  split
  · assumption
  · rfl

@[simp] theorem rendering_flushLiteral :
    state.flushLiteral.rendering platform record =
      state.rendering platform record := by
  unfold flushLiteral
  split
  · rfl
  · simp [rendering, Formatter.renderToken, renderField]

@[simp] theorem rendering_pushLiteral (text : Text) :
    (state.pushLiteral text).rendering platform record =
      state.rendering platform record ++ text := by
  simp [rendering, pushLiteral]

theorem rendering_pushToken (flushed : state.literal = [])
    (kind : TokenKind) (literal : Text) :
    (state.pushToken kind literal).rendering platform record =
      state.rendering platform record ++
        Formatter.renderToken platform ⟨kind, literal⟩ record := by
  simp [rendering, pushToken, flushed]

theorem rendering_pushSpecifier (flushed : state.literal = [])
    (letter : Char) :
    (state.pushSpecifier letter).rendering platform record =
      state.rendering platform record ++
        specifierMeaning platform record letter := by
  unfold pushSpecifier specifierMeaning
  split
  all_goals
    simp [rendering_pushToken _ flushed, Formatter.renderToken, renderField]

theorem rendering_scan (skip : Nat) (rest : Text) :
    (state.scan skip rest).rendering platform record =
      state.rendering platform record ++
        meaning platform record (rest.drop skip) := by
  fun_induction scan state skip rest with
  | case1 => simp
  | case2 state skip _ rest induction => simpa using induction
  | case3 state ch rest stamped induction =>
      rw [induction, rendering_pushToken _ (literal_flushLiteral _),
        rendering_flushLiteral, List.drop_zero, meaning_timestamp stamped,
        List.append_assoc]
      rfl
  | case4 state ch rest _ plain induction =>
      rw [induction, rendering_pushLiteral, List.drop_zero, List.drop_zero,
        meaning_plain plain]
      simp
  | case5 state ch percent _ =>
      obtain rfl : ch = '%' := by simpa using percent
      rw [rendering_pushLiteral, List.drop_zero, meaning_percent]
  | case6 state ch percent letter rest unstamped induction =>
      obtain rfl : ch = '%' := by simpa using percent
      rw [induction, rendering_pushSpecifier _ (literal_flushLiteral _),
        rendering_flushLiteral, List.drop_zero, List.drop_zero,
        meaning_specifier unstamped, List.append_assoc]

end Compiling

theorem compilePattern_meaning (platform : Platform) (record : LogRecord)
    (pattern : Text) :
    ((compilePattern pattern).flatMap fun token =>
        Formatter.renderToken platform token record) =
      meaning platform record pattern := by
  have rendered :
      (Compiling.scan {} 0 pattern).flushLiteral.rendering platform record =
        (Compiling.scan {} 0 pattern).rendering platform record :=
    Compiling.rendering_flushLiteral _
  rw [Compiling.rendering_scan, Compiling.rendering,
    Compiling.literal_flushLiteral] at rendered
  simpa [compilePattern] using rendered

theorem Formatter.render_make (platform : Platform) (record : LogRecord)
    (pattern : Text) :
    (Formatter.make pattern).render platform record =
      meaning platform record pattern ++ ['\n'] := by
  rw [Formatter.render, Formatter.make, compilePattern_meaning]

/-- The formatters in use on a thread, the buffers they are given, and the
thread's cache. -/
structure Formatters (ι β : Type) where
  formatters : ι → Option Formatter := fun _ => none
  buffers : β → Text
  cache : TimestampCache := {}

/-- A constructor called without an argument has no pattern; with `assign` the
owner of a buffer changes it. -/
inductive FormatterCall (ι β : Type) where
  | construct (name : ι) (pattern : Option Text)
  | setPattern (name : ι) (pattern : Text)
  | assign (buffer : β) (text : Text)
  | format (name : ι) (buffer : β) (record : LogRecord)
  deriving DecidableEq, Repr

section FormatterCalls

variable {ι β : Type} [DecidableEq ι]

def FormatterCall.assigns (name : ι) : FormatterCall ι β → Option Text
  | .construct other pattern =>
      if other = name then some (pattern.getD defaultPattern) else none
  | .setPattern other pattern =>
      if other = name then some pattern else none
  | .assign _ _ | .format _ _ _ => none

/-- The pattern a formatter was given last. -/
def patternInForce (name : ι) (calls : List (FormatterCall ι β)) :
    Option Text :=
  (calls.filterMap (FormatterCall.assigns name)).getLast?

theorem patternInForce_snoc (name : ι) (calls : List (FormatterCall ι β))
    (call : FormatterCall ι β) :
    patternInForce name (calls ++ [call]) =
      (call.assigns name).or (patternInForce name calls) := by
  cases assigned : call.assigns name with
  | none => simp [patternInForce, assigned]
  | some pattern => simp [patternInForce, assigned]

variable [DecidableEq β]

/-- One call on the thread, by a rendering that does not throw. -/
def Formatters.step (platform : Platform) (state : Formatters ι β) :
    FormatterCall ι β → Option (Formatters ι β)
  | .construct name pattern =>
      let formatter :=
        match pattern with
        | some pattern => Formatter.make pattern
        | none => Formatter.makeDefault
      some { state with
        formatters := Function.update state.formatters name formatter }
  | .setPattern name pattern =>
      match state.formatters name with
      | some formatter =>
          some { state with
            formatters := Function.update state.formatters name
              (formatter.setPattern pattern) }
      | none => none
  | .assign buffer text =>
      some { state with
        buffers := Function.update state.buffers buffer text }
  | .format name buffer record =>
      match state.formatters name with
      | some formatter =>
          match formatter.format platform none state.cache
            (state.buffers buffer) record with
          | (some text, cache) =>
              some { state with
                buffers := Function.update state.buffers buffer text
                cache := cache }
          | (none, _) => none
      | none => none

def formatterMachine (platform : Platform) (buffers : β → Text) :
    Machine (Formatters ι β) (FormatterCall ι β) where
  start := { buffers := buffers }
  step := Formatters.step platform

/-- Every formatter is the one its pattern compiles to, and the cache is
sound. -/
structure Formatters.InForce (platform : Platform)
    (calls : List (FormatterCall ι β)) (state : Formatters ι β) : Prop where
  formatters : ∀ name,
    state.formatters name = (patternInForce name calls).map Formatter.make
  cache : state.cache.Sound platform

variable {platform : Platform} {calls : List (FormatterCall ι β)}
  {state after : Formatters ι β} {name : ι} {pattern : Text}

theorem Formatters.InForce.step_format
    (inForce : state.InForce platform calls)
    (given : patternInForce name calls = some pattern)
    (buffer : β) (record : LogRecord) :
    ∃ cache, state.step platform (.format name buffer record) =
        some { state with
          buffers := Function.update state.buffers buffer
            (state.buffers buffer ++ meaning platform record pattern ++
              ['\n'])
          cache := cache } ∧
      cache.Sound platform := by
  have formatter : state.formatters name = some (Formatter.make pattern) := by
    rw [inForce.formatters, given, Option.map_some]
  obtain ⟨cache, formatted, sound⟩ :=
    (Formatter.make pattern).format_spec inForce.cache
      (state.buffers buffer) record
  refine ⟨cache, ?_, sound⟩
  rw [Formatter.render_make] at formatted
  simp only [Formatters.step, formatter, formatted, List.append_assoc]

omit [DecidableEq β] in
theorem Formatters.InForce.assign
    (inForce : state.InForce platform calls) {call : FormatterCall ι β}
    (given : call.assigns name = some pattern)
    (others : ∀ other, other ≠ name → call.assigns other = none) :
    Formatters.InForce platform (calls ++ [call])
      { state with
        formatters := Function.update state.formatters name
          (some (Formatter.make pattern)) } := by
  constructor
  · intro other
    rw [patternInForce_snoc]
    by_cases same : other = name
    · subst other
      simp [given]
    · simp [same, others other same, inForce.formatters]
  · exact inForce.cache

theorem Formatters.InForce.step {call : FormatterCall ι β}
    (inForce : state.InForce platform calls)
    (stepped : state.step platform call = some after) :
    after.InForce platform (calls ++ [call]) := by
  cases call with
  | construct name given =>
      obtain rfl := Option.some.inj stepped
      have others : ∀ other, other ≠ name →
          (FormatterCall.construct (β := β) name given).assigns other =
            none := by
        intro other different
        exact if_neg different.symm
      cases given with
      | none => exact inForce.assign (if_pos rfl) others
      | some pattern => exact inForce.assign (if_pos rfl) others
  | setPattern name pattern =>
      have others : ∀ other, other ≠ name →
          (FormatterCall.setPattern (β := β) name pattern).assigns other =
            none := by
        intro other different
        exact if_neg different.symm
      simp only [Formatters.step] at stepped
      split at stepped
      · obtain rfl := Option.some.inj stepped
        exact inForce.assign (if_pos rfl) others
      · cases stepped
  | assign buffer text =>
      obtain rfl := Option.some.inj stepped
      constructor
      · intro name
        rw [patternInForce_snoc]
        exact inForce.formatters name
      · exact inForce.cache
  | format name buffer record =>
      cases given : patternInForce name calls with
      | none =>
          have absent : state.formatters name = none := by
            rw [inForce.formatters, given, Option.map_none]
          simp [Formatters.step, absent] at stepped
      | some pattern =>
          obtain ⟨cache, formatted, sound⟩ :=
            inForce.step_format given buffer record
          obtain rfl := Option.some.inj (formatted.symm.trans stepped)
          constructor
          · intro other
            rw [patternInForce_snoc]
            exact inForce.formatters other
          · exact sound

theorem Formatters.InForce.run {buffers : β → Text}
    (run : (formatterMachine platform buffers).Run Machine.Free
      (formatterMachine platform buffers).start calls state) :
    state.InForce platform calls := by
  apply run.invariant_labels
  · intro taken before call after stepped _ inForce
    exact inForce.step stepped
  · constructor
    · intro name
      rfl
    · exact TimestampCache.Sound.empty

/-- After any calls, `format` appends the meaning of the pattern its formatter
was given last, and a newline. -/
theorem format_appends_meaning {buffers : β → Text}
    (run : (formatterMachine platform buffers).Run Machine.Free
      (formatterMachine platform buffers).start calls state)
    (given : patternInForce name calls = some pattern)
    (buffer : β) (record : LogRecord) :
    ∃ cache, state.step platform (.format name buffer record) =
      some { state with
        buffers := Function.update state.buffers buffer
          (state.buffers buffer ++ meaning platform record pattern ++
            ['\n'])
        cache := cache } := by
  obtain ⟨cache, formatted, _⟩ :=
    (Formatters.InForce.run run).step_format given buffer record
  exact ⟨cache, formatted⟩

end FormatterCalls

/-- Two formatters share the cache of the thread, and the one that formats was
given a new pattern. -/
theorem format_appends_meaning_setPattern :
    ∃ state, (formatterMachine Platform.epoch
        fun _ : Unit => "kept ".toList).Run Machine.Free
        (formatterMachine Platform.epoch fun _ => "kept ".toList).start
        [.construct 0 none, .construct 1 (some "%%%Q".toList),
          .format 0 () {}, .setPattern 1 "%m%".toList] state ∧
      ∃ cache, state.step Platform.epoch
          (.format 1 () { message := "text".toList }) =
        some { state with
          buffers := Function.update state.buffers ()
            (state.buffers () ++
              meaning Platform.epoch { message := "text".toList }
                "%m%".toList ++ ['\n'])
          cache := cache } := by
  obtain ⟨state, run, _⟩ :=
    Machine.exists_run
      (formatterMachine Platform.epoch fun _ : Unit => "kept ".toList)
      Machine.Free
      (formatterMachine Platform.epoch fun _ => "kept ".toList).start
      [.construct 0 none, .construct 1 (some "%%%Q".toList),
        .format 0 () {}, .setPattern 1 "%m%".toList]
      (fun _ => True) (by decide +kernel)
  exact ⟨state, run, format_appends_meaning run (by decide +kernel) () _⟩

/-- Every `%` doubled. -/
def escape (text : Text) : Text :=
  text.flatMap fun ch => if ch = '%' then ['%', '%'] else [ch]

section Escape

variable {platform : Platform} {record : LogRecord}

theorem escape_cons (ch : Char) (text : Text) :
    escape (ch :: text) =
      (if ch = '%' then ['%', '%'] else [ch]) ++ escape text :=
  List.flatMap_cons

/-- A doubled percent sign starts no timestamp, whatever follows it. -/
theorem meaning_doubled (rest : Text) :
    meaning platform record ('%' :: '%' :: rest) =
      '%' :: meaning platform record rest := by
  have unstamped :
      ¬ timestampPattern.isPrefixOf ('%' :: '%' :: rest) = true := by
    intro stamped
    obtain ⟨_, same⟩ := isPrefixOf_timestampPattern stamped
    simp at same
  rw [meaning_specifier unstamped]
  rfl

theorem meaning_escape_append (text pattern : Text) :
    meaning platform record (escape text ++ pattern) =
      text ++ meaning platform record pattern := by
  induction text with
  | nil => rfl
  | cons ch text induction =>
      rw [escape_cons]
      by_cases percent : ch = '%'
      · subst ch
        rw [if_pos rfl]
        calc
          meaning platform record
                ((['%', '%'] ++ escape text) ++ pattern)
              = '%' :: meaning platform record (escape text ++ pattern) :=
            meaning_doubled _
          _ = ('%' :: text) ++ meaning platform record pattern := by
            rw [induction, List.cons_append]
      · rw [if_neg percent]
        calc
          meaning platform record (([ch] ++ escape text) ++ pattern)
              = ch :: meaning platform record (escape text ++ pattern) :=
            meaning_plain percent
          _ = (ch :: text) ++ meaning platform record pattern := by
            rw [induction, List.cons_append]

/-- Whatever was formatted on the thread before. -/
theorem format_escape (text pattern : Text) (record : LogRecord) :
    ∃ yielded, ∀ {ι β : Type} [DecidableEq ι] [DecidableEq β]
      {buffers : β → Text} {calls : List (FormatterCall ι β)}
      {state : Formatters ι β},
      (formatterMachine platform buffers).Run Machine.Free
        (formatterMachine platform buffers).start calls state →
      ((Formatter.make pattern).format platform none state.cache []
          record).1 = some yielded ∧
        ∀ buffer,
          ((Formatter.make (escape text ++ pattern)).format platform none
              state.cache buffer record).1 =
            some (buffer ++ text ++ yielded) ∧
          ((Formatter.make (escape text)).format platform none
              state.cache buffer record).1 =
            some (buffer ++ text ++ ['\n']) := by
  refine ⟨(Formatter.make pattern).render platform record, ?_⟩
  intro ι β _ _ buffers calls state run
  have sound := (Formatters.InForce.run run).cache
  constructor
  · obtain ⟨_, formatted, _⟩ :=
      (Formatter.make pattern).format_spec sound [] record
    rw [formatted, List.nil_append]
  intro buffer
  constructor
  · obtain ⟨_, formatted, _⟩ :=
      (Formatter.make (escape text ++ pattern)).format_spec sound buffer record
    rw [formatted, Formatter.render_make, Formatter.render_make,
      meaning_escape_append]
    simp
  · obtain ⟨_, formatted, _⟩ :=
      (Formatter.make (escape text)).format_spec sound buffer record
    have alone : meaning platform record (escape text ++ []) =
        text ++ meaning platform record [] :=
      meaning_escape_append text []
    rw [formatted, Formatter.render_make, ← List.append_nil (escape text),
      alone]
    simp

end Escape

/-- The escaped percent sign stands right before a timestamp. -/
theorem format_escape_timestamp :
    ∃ yielded,
      ((Formatter.make timestampPattern).format Platform.epoch none {} []
          {}).1 = some yielded ∧
        ((Formatter.make (escape "100%".toList ++ timestampPattern)).format
            Platform.epoch none {} "> ".toList {}).1 =
          some ("> ".toList ++ "100%".toList ++ yielded) ∧
        ((Formatter.make (escape "100%".toList)).format
            Platform.epoch none {} "> ".toList {}).1 =
          some ("> ".toList ++ "100%".toList ++ ['\n']) := by
  obtain ⟨yielded, formats⟩ :=
    @format_escape Platform.epoch "100%".toList timestampPattern {}
  obtain ⟨plain, escaped⟩ :=
    @formats Unit Unit _ _ (fun _ => []) [] _ .nil
  exact ⟨yielded, plain, escaped "> ".toList⟩

end LogParse
