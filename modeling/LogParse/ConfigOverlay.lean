import LogParse.ConfigText

/-!
# Configuration files on top of each other

A file that follows another one overwrites the fields it gives a valid value
and no others.  Whatever a file says, the configuration that is read from it
can be written down again.
-/

namespace LogParse

theorem lines_newlineFree (text : Text) : ∀ line ∈ lines text, '\n' ∉ line := by
  induction text with
  | nil => simp [lines]
  | cons ch rest induction =>
      by_cases newline : ch = '\n'
      · subst ch
        simpa using induction
      · have alone : '\n' ∉ [ch] := by simpa using Ne.symm newline
        cases following : lines rest with
        | nil =>
            have only : lines (ch :: rest) = [[ch]] := by
              rw [lines.eq_def]
              dsimp only
              rw [if_neg newline, following]
              cases rest <;> rfl
            simpa [only] using alone
        | cons line others =>
            rw [lines_cons newline following]
            rw [following] at induction
            obtain ⟨here, later⟩ := List.forall_mem_cons.mp induction
            refine List.forall_mem_cons.mpr ⟨?_, later⟩
            simpa [here] using alone

/-- A text on a new line is read from where the text before has led. -/
theorem parseFrom_append_newline (config : Config) (first second : Text) :
    parseFrom config (first ++ '\n' :: second) =
      parseFrom (parseFrom config first) second := by
  have started := parseFrom_append_final config first
  rw [parseFrom] at started
  rw [parseFrom, lines_append_newline, List.foldl_append, started, parseFrom,
    parseFrom]

/-- The last valid value, if the text has one. -/
def assigned (field : Field) (text : Text) : Option field.Value :=
  ((lines text).filterMap (given field.keys field.valid)).getLast?

theorem Field.get_parseFrom (field : Field) (config : Config) (text : Text) :
    field.get (parseFrom config text) =
      (assigned field text).getD (field.get config) := by
  rw [parseFrom, foldl_field field.hasKeys.parseLine_eq,
    lastGiven_eq_getD, assigned]

theorem assigned_append_newline (field : Field) (first second : Text) :
    assigned field (first ++ '\n' :: second) =
      (assigned field second).or (assigned field first) := by
  have started : (lines (first ++ ['\n'])).filterMap
      (given field.keys field.valid) =
        (lines first).filterMap (given field.keys field.valid) := by
    rcases lines_append_final first with same | blank
    · rw [same]
    · rw [blank, List.filterMap_append]
      have nothing : given field.keys field.valid [] = none := rfl
      simp [nothing]
  rw [assigned, lines_append_newline, List.filterMap_append, started,
    List.getLast?_append]
  rfl

theorem Verbatim.of_trim {text : Text} (newlineFree : '\n' ∉ text) :
    Verbatim (trim text) := by
  rw [trim_eq_strip]
  refine ⟨fun member => newlineFree (strip_subset text member), ?_, ?_⟩
  · intro ch first
    rw [head?_strip] at first
    have solid := List.head?_dropWhile_not isSpace text
    rw [first] at solid
    simpa using solid
  · intro ch last
    obtain ⟨nonempty, isLast⟩ := List.mem_getLast?_eq_getLast last
    rw [isLast]
    exact List.rdropWhile_last_not isSpace _ nonempty

theorem Field.writable_of_valid {field : Field} {text : Text}
    {value : field.Value} (newlineFree : '\n' ∉ text)
    (valid : field.valid (trim text) = some value) : field.Writable value := by
  cases field with
  | pattern | filePath =>
      obtain rfl := Option.some.inj valid
      exact Verbatim.of_trim newlineFree
  | queueCapacity | rotationMaxFileSize | rotationMaxFile
  | flushIntervalMs =>
      simp only [Field.valid, decimal] at valid
      split at valid
      · rename_i digits
        obtain rfl := Option.some.inj valid
        exact digits.2.2
      · cases valid
  | mode | level | overflowPolicy | enableConsole | enableFile
  | rotationEnabled | coloredOutput | flushOnError => trivial

theorem Field.writable_of_given {field : Field} {line : Text}
    {value : field.Value} (newlineFree : '\n' ∉ line)
    (gives : given field.keys field.valid line = some value) :
    field.Writable value := by
  simp only [given, assignment] at gives
  split at gives
  · rename_i key value' found
    split at found
    · cases found
    · obtain ⟨delimiter, _, rfl, rfl⟩ : ∃ delimiter,
          (trim line).idxOf? '=' = some delimiter ∧
            lower (trim ((trim line).take delimiter)) = key ∧
            trim ((trim line).drop (delimiter + 1)) = value' := by
        simpa using found
      split at gives
      · apply writable_of_valid _ gives
        intro member
        apply newlineFree
        rw [trim_eq_strip] at member
        exact strip_subset line (List.mem_of_mem_drop member)
      · cases gives
  · cases gives

theorem Field.writable_of_assigned {field : Field} {text : Text}
    {value : field.Value} (gives : assigned field text = some value) :
    field.Writable value := by
  obtain ⟨line, member, given⟩ :=
    List.mem_filterMap.mp (List.mem_of_getLast? gives)
  exact writable_of_given (lines_newlineFree text line member) given

theorem writable_default (field : Field) :
    field.Writable (field.get ({} : Config)) := by
  cases field with
  | pattern | filePath =>
      refine ⟨by decide, ?_, ?_⟩
      all_goals
        rintro ch ⟨⟩
        decide
  | _ => simp [Field.Writable, Field.get]

theorem parse_writable (text : Text) (field : Field) :
    field.Writable (field.get (parse text)) := by
  have read := field.get_parseFrom {} text
  rw [parseFrom, ← parse] at read
  rw [read]
  cases gives : assigned field text with
  | none => exact writable_default field
  | some value => exact field.writable_of_assigned gives

/-- A written configuration gives every field its value. -/
theorem parseFrom_write {config : Config}
    (writable : ∀ field : Field, field.Writable (field.get config))
    (other : Config) : parseFrom other config.write = config := by
  let written := Field.all.map fun field => field.line config
  have written_by : ∀ line ∈ written, ∃ field : Field,
      field.Writes config line := by
    intro line member
    obtain ⟨field, _, rfl⟩ := List.mem_map.mp member
    exact ⟨field, field.line_writes config⟩
  have newlineFree : ∀ line ∈ written, '\n' ∉ line := by
    intro line member
    obtain ⟨field, wrote⟩ := written_by line member
    exact wrote.newlineFree (writable field)
  rw [parseFrom, Config.write, lines_unlines newlineFree]
  apply Field.ext_get
  intro field
  rw [foldl_field field.hasKeys.parseLine_eq]
  apply lastGiven_eq
  · intro line member value gives
    obtain ⟨writer, wrote⟩ := written_by line member
    rw [wrote.given_eq (writable writer)] at gives
    split at gives
    · exact (Option.some.inj gives).symm
    · cases gives
  · refine ⟨field.line config, List.mem_map_of_mem field.mem_all, ?_⟩
    exact ((field.line_writes config).given_eq (writable field)).trans
      (if_pos rfl)

/-- Two texts after each other: the second one wins wherever it gives a valid
value, and saying the same again changes nothing. -/
theorem parse_overlay (first second : Text) :
    (∀ field : Field, field.get (parse (first ++ '\n' :: second)) =
      ((assigned field second).or (assigned field first)).getD
        (field.get {})) ∧
    (∀ field : Field, assigned field (first ++ '\n' :: second) =
      (assigned field second).or (assigned field first)) ∧
    parse (first ++ '\n' :: first) = parse first := by
  have whole (text : Text) (field : Field) : field.get (parse text) =
      (assigned field text).getD (field.get {}) :=
    field.get_parseFrom {} text
  refine ⟨?_, fun field => assigned_append_newline field first second, ?_⟩
  · intro field
    rw [whole, assigned_append_newline]
  · apply Field.ext_get
    intro field
    rw [whole, whole, assigned_append_newline, Option.or_self]

/-- The configurations that some text is read as are the writable ones.  In
front of or behind other text, what was read can be replaced by what is
written for it. -/
theorem parse_normalizes (config : Config) (text other : Text) :
    ((∃ source, parse source = config) ↔
      ∀ field : Field, field.Writable (field.get config)) ∧
    parse (parse text).write = parse text ∧
    parse (other ++ '\n' :: (parse text).write) = parse text ∧
    parse ((parse text).write ++ '\n' :: other) =
      parse (text ++ '\n' :: other) := by
  have rewritten (before : Config) :
      parseFrom before (parse text).write = parse text :=
    parseFrom_write (parse_writable text) before
  refine ⟨⟨?_, ?_⟩, rewritten {}, ?_, ?_⟩
  · rintro ⟨source, rfl⟩
    exact parse_writable source
  · intro writable
    exact ⟨config.write, parseFrom_write writable {}⟩
  · calc
      _ = parseFrom (parseFrom {} other) (parse text).write :=
        parseFrom_append_newline {} other _
      _ = _ := rewritten _
  · calc
      _ = parseFrom (parseFrom {} (parse text).write) other :=
        parseFrom_append_newline {} _ other
      _ = parseFrom (parse text) other := by rw [rewritten]
      _ = _ := (parseFrom_append_newline {} text other).symm

end LogParse
