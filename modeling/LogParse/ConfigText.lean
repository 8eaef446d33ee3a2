import LogParse.ConfigFields
import Mathlib.Data.List.Forall2

/-!
# Writing a configuration down

A text with one line `key=value` for each field, in any order and in any of
the documented notations, is read back as the configuration it was written
from.
-/

namespace LogParse

/-- Every line ended by a newline. -/
def unlines (written : List Text) : Text :=
  written.flatMap fun line => line ++ ['\n']

@[simp] theorem unlines_cons (line : Text) (written : List Text) :
    unlines (line :: written) = line ++ '\n' :: unlines written := by
  simp [unlines]

@[simp] theorem lines_newline (rest : Text) :
    lines ('\n' :: rest) = [] :: lines rest := by
  rw [lines.eq_def]
  exact if_pos rfl

theorem lines_ne_nil {text : Text} (nonempty : text ≠ []) :
    lines text ≠ [] := by
  cases text with
  | nil => exact absurd rfl nonempty
  | cons ch rest =>
      rw [lines.eq_def]
      dsimp only
      split
      · simp
      · split <;> simp

/-- A character in front of a line that has begun. -/
theorem lines_cons {ch : Char} {rest line : Text} {others : List Text}
    (solid : ch ≠ '\n') (following : lines rest = line :: others) :
    lines (ch :: rest) = (ch :: line) :: others := by
  have nonempty : rest ≠ [] := by
    rintro rfl
    cases following
  rw [lines.eq_def]
  dsimp only
  rw [if_neg solid, following]
  cases rest with
  | nil => exact absurd rfl nonempty
  | cons => rfl

theorem lines_append_newline (text rest : Text) :
    lines (text ++ '\n' :: rest) = lines (text ++ ['\n']) ++ lines rest := by
  induction text with
  | nil => simp [lines]
  | cons ch text induction =>
      by_cases newline : ch = '\n'
      · subst ch
        simp [induction]
      · cases started : lines (text ++ ['\n']) with
        | nil => exact absurd started (lines_ne_nil (by simp))
        | cons line others =>
            rw [started] at induction
            rw [List.cons_append, List.cons_append,
              lines_cons newline induction, lines_cons newline started]
            rfl

theorem lines_line {line : Text} (newlineFree : '\n' ∉ line) :
    lines (line ++ ['\n']) = [line] := by
  induction line with
  | nil => rfl
  | cons ch line induction =>
      obtain ⟨different, rest⟩ :=
        List.ne_and_not_mem_of_not_mem_cons newlineFree
      exact lines_cons (Ne.symm different) (induction rest)

theorem lines_unlines {written : List Text}
    (newlineFree : ∀ line ∈ written, '\n' ∉ line) :
    lines (unlines written) = written := by
  induction written with
  | nil => rfl
  | cons line written induction =>
      obtain ⟨here, others⟩ := List.forall_mem_cons.mp newlineFree
      rw [unlines_cons, lines_append_newline, lines_line here,
        induction others, List.singleton_append]

/-- A newline at the very end ends a line or adds a blank one. -/
theorem lines_append_final (text : Text) :
    lines (text ++ ['\n']) = lines text ∨
      lines (text ++ ['\n']) = lines text ++ [[]] := by
  induction text with
  | nil => exact .inr rfl
  | cons ch text induction =>
      by_cases newline : ch = '\n'
      · subst ch
        simpa using induction
      cases started : lines text with
      | nil =>
          obtain rfl : text = [] := by
            by_contra nonempty
            exact lines_ne_nil nonempty started
          exact .inl (by simp [lines, newline])
      | cons line others =>
          rw [started] at induction
          rw [List.cons_append, lines_cons newline started]
          rcases induction with same | blank
          · exact .inl (lines_cons newline same)
          · exact .inr (lines_cons newline blank)

/-- What `parse` makes of a text, from any configuration on. -/
def parseFrom (config : Config) (text : Text) : Config :=
  (lines text).foldl parseLine config

theorem parseFrom_append_final (config : Config) (text : Text) :
    parseFrom config (text ++ ['\n']) = parseFrom config text := by
  rcases lines_append_final text with same | blank
  · rw [parseFrom, same, parseFrom]
  · rw [parseFrom, blank, List.foldl_append, parseFrom]
    rfl

private theorem toLower_cases (ch : Char) :
    ch.toLower = ch ∨ 65 ≤ ch.toNat ∧ 65 ≤ ch.toLower.toNat := by
  by_cases upper : ch.val ≥ 'A'.val ∧ ch.val ≤ 'Z'.val
  · right
    have least : 65 ≤ ch.val.toNat := UInt32.le_iff_toNat_le.mp upper.1
    have most : ch.val.toNat ≤ 90 := UInt32.le_iff_toNat_le.mp upper.2
    have lowered : ch.toLower.toNat = (ch.val + 32).toNat :=
      congrArg Char.toNat (dif_pos upper)
    refine ⟨least, ?_⟩
    rw [lowered, UInt32.toNat_add]
    change 65 ≤ (ch.val.toNat + 32) % 2 ^ 32
    omega
  · exact .inl (dif_neg upper)

theorem isSpace_toLower (ch : Char) : isSpace ch.toLower = isSpace ch := by
  rcases toLower_cases ch with same | ⟨_, _⟩
  · rw [same]
  · simp only [isSpace, Bool.or_eq_decide, Bool.and_eq_decide,
      decide_eq_decide, decide_eq_true_eq]
    omega

/-- Lowering neither makes nor removes a mark that comes before the letters. -/
theorem toLower_eq_mark {mark : Char} (low : mark.toNat < 65) (ch : Char) :
    ch.toLower = mark ↔ ch = mark := by
  rcases toLower_cases ch with same | ⟨_, _⟩
  · rw [same]
  · constructor
    all_goals
      rintro rfl
      omega

theorem mem_lower_mark {mark : Char} (low : mark.toNat < 65) {value : Text} :
    mark ∈ lower value ↔ mark ∈ value := by
  simp [lower, toLower_eq_mark low]

theorem lower_trim (value : Text) :
    lower (trim value) = trim (lower value) := by
  rw [trim_eq_strip, trim_eq_strip, lower, lower,
    strip_map value isSpace_toLower]

theorem assignment_of_not_mem {line : Text} (absent : '=' ∉ line) :
    assignment line = none := by
  have stripped : '=' ∉ trim line := by
    rw [trim_eq_strip]
    exact fun member => absent (strip_subset line member)
  simp only [assignment]
  split
  · rfl
  · rw [List.idxOf?_eq_none_iff.mpr stripped, Option.map_none]

private theorem idxOf?_append_cons {mark : Char} {before : Text}
    (absent : mark ∉ before) (after : Text) :
    (before ++ mark :: after).idxOf? mark = some before.length := by
  induction before with
  | nil => simp [List.idxOf?_cons]
  | cons ch before induction =>
      obtain ⟨different, others⟩ :=
        List.ne_and_not_mem_of_not_mem_cons absent
      simp [List.idxOf?_cons, Ne.symm different, induction others]

theorem head?_lower (value : Text) :
    (lower value).head? = some '#' ↔ value.head? = some '#' := by
  simp [lower, List.head?_map, toLower_eq_mark]

/-- The first `=` of a line splits it, unless the line is a comment. -/
theorem assignment_append {key : Text} (absent : '=' ∉ key) (value : Text) :
    assignment (key ++ '=' :: value) =
      if (lower (trim key)).head? = some '#' then none
      else some (lower (trim key), trim value) := by
  have solid : ¬ isSpace '=' = true := by decide
  have within : '=' ∉ key.dropWhile isSpace :=
    fun member => absent ((List.dropWhile_suffix isSpace).subset member)
  have comment :
      (key.dropWhile isSpace ++ '=' :: value.rdropWhile isSpace = [] ∨
        (key.dropWhile isSpace ++ '=' :: value.rdropWhile isSpace).head? =
          some '#') ↔ (lower (strip isSpace key)).head? = some '#' := by
    rw [head?_lower, head?_strip]
    cases key.dropWhile isSpace <;> simp
  have behind (before after : Text) :
      (before ++ '=' :: after).drop (before.length + 1) = after := by
    rw [← List.drop_drop, List.drop_left]
    rfl
  simp only [assignment, trim_eq_strip, strip_append_cons solid,
    idxOf?_append_cons within]
  by_cases commented : (lower (strip isSpace key)).head? = some '#'
  · rw [if_pos (comment.mpr commented), if_pos commented]
  · rw [if_neg (mt comment.mp commented), if_neg commented,
      Option.map_some, List.take_left, behind, strip_dropWhile,
      strip_rdropWhile]

/-- The notations a value may be written in. -/
def Field.Spells : (field : Field) → field.Value → Text → Prop
  | .mode, value, text => (lower text, value) ∈ modeSpellings
  | .level, value, text =>
      (lower text, value) ∈ levelSpellings ∨ text = value.toString
  | .pattern, value, text | .filePath, value, text => text = value
  | .queueCapacity, size, text | .rotationMaxFileSize, size, text
  | .rotationMaxFile, size, text | .flushIntervalMs, size, text =>
      text = Nat.toDigits 10 size
  | .overflowPolicy, value, text =>
      (lower text, value) ∈ overflowPolicySpellings
  | .enableConsole, value, text | .enableFile, value, text
  | .rotationEnabled, value, text | .coloredOutput, value, text
  | .flushOnError, value, text => (lower text, value) ∈ boolSpellings

instance : (field : Field) → (value : field.Value) → (text : Text) →
    Decidable (field.Spells value text)
  | .mode, value, text =>
      inferInstanceAs (Decidable ((lower text, value) ∈ modeSpellings))
  | .level, value, text =>
      inferInstanceAs (Decidable
        ((lower text, value) ∈ levelSpellings ∨ text = value.toString))
  | .pattern, value, text | .filePath, value, text =>
      inferInstanceAs (Decidable (text = value))
  | .queueCapacity, size, text | .rotationMaxFileSize, size, text
  | .rotationMaxFile, size, text | .flushIntervalMs, size, text =>
      inferInstanceAs (Decidable (text = Nat.toDigits 10 size))
  | .overflowPolicy, value, text =>
      inferInstanceAs
        (Decidable ((lower text, value) ∈ overflowPolicySpellings))
  | .enableConsole, value, text | .enableFile, value, text
  | .rotationEnabled, value, text | .coloredOutput, value, text
  | .flushOnError, value, text =>
      inferInstanceAs (Decidable ((lower text, value) ∈ boolSpellings))

/-- A line that assigns the field its value, under any of its keys and in any
of its notations. -/
def Field.Writes (field : Field) (config : Config) (line : Text) : Prop :=
  ∃ key value, line = key ++ '=' :: value ∧ lower key ∈ field.keys ∧
    field.Spells (field.get config) value

/-- What a line keeps of a free text. -/
structure Verbatim (text : Text) : Prop where
  newlineFree : '\n' ∉ text
  first : ∀ ch ∈ text.head?, ¬ isSpace ch = true
  last : ∀ ch ∈ text.getLast?, ¬ isSpace ch = true

/-- The values a field can be given by a line. -/
def Field.Writable : (field : Field) → field.Value → Prop
  | .pattern, text | .filePath, text => Verbatim text
  | .queueCapacity, size | .rotationMaxFileSize, size
  | .rotationMaxFile, size | .flushIntervalMs, size => size < 2 ^ 64
  | _, _ => True

theorem Field.keys_plain (field : Field) :
    ∀ key ∈ field.keys,
      trim key = key ∧ '=' ∉ key ∧ '#' ∉ key ∧ '\n' ∉ key := by
  cases field <;> decide

theorem decimal_toDigits {size : Nat} (fits : size < 2 ^ 64) :
    decimal (Nat.toDigits 10 size) = some size := by
  have digits : (Nat.toDigits 10 size).all Char.isDigit = true :=
    List.all_eq_true.mpr fun ch member =>
      Nat.isDigit_of_mem_toDigits (by decide) (by decide) member
  rw [decimal, Nat.ofDigitChars_ten_toDigits,
    if_pos ⟨Nat.toDigits_ne_nil, digits, fits⟩]

theorem isSpace_of_isDigit {ch : Char} (digit : ch.isDigit = true) :
    ¬ isSpace ch = true := by
  have least : 48 ≤ ch.toNat := by
    simp only [Char.isDigit, Bool.and_eq_true, decide_eq_true_eq] at digit
    exact UInt32.le_iff_toNat_le.mp digit.1
  simp only [isSpace, Bool.or_eq_true, Bool.and_eq_true, decide_eq_true_eq]
  omega

theorem trim_toDigits (size : Nat) :
    trim (Nat.toDigits 10 size) = Nat.toDigits 10 size := by
  have solid : ∀ ch ∈ Nat.toDigits 10 size, ¬ isSpace ch = true :=
    fun ch member => isSpace_of_isDigit
      (Nat.isDigit_of_mem_toDigits (by decide) (by decide) member)
  rw [trim_eq_strip]
  apply strip_eq_self
  · intro ch first
    exact solid ch (List.mem_of_mem_head? first)
  · intro ch last
    exact solid ch (List.mem_of_mem_getLast? last)

theorem Verbatim.trim_eq {text : Text} (verbatim : Verbatim text) :
    trim text = text := by
  rw [trim_eq_strip]
  exact strip_eq_self verbatim.first verbatim.last

/-- A table of spellings without blanks, in which no spelling means two
things. -/
structure Unambiguous {α : Type} (spellings : List (Text × α)) : Prop where
  lookup : ∀ entry ∈ spellings, spellings.lookup entry.1 = some entry.2
  plain : ∀ entry ∈ spellings, trim entry.1 = entry.1 ∧ '\n' ∉ entry.1

theorem modeSpellings_unambiguous : Unambiguous modeSpellings := by
  constructor <;> decide

theorem levelSpellings_unambiguous : Unambiguous levelSpellings := by
  constructor <;> decide

theorem overflowPolicySpellings_unambiguous :
    Unambiguous overflowPolicySpellings := by
  constructor <;> decide

theorem boolSpellings_unambiguous : Unambiguous boolSpellings := by
  constructor <;> decide

theorem Unambiguous.reads {α : Type} {spellings : List (Text × α)}
    {value : α} {text : Text} (unambiguous : Unambiguous spellings)
    (listed : (lower text, value) ∈ spellings) :
    spelled spellings (trim text) = some value ∧ '\n' ∉ text := by
  obtain ⟨plain, newlineFree⟩ := unambiguous.plain _ listed
  constructor
  · rw [spelled, lower_trim, plain]
    exact unambiguous.lookup _ listed
  · rwa [mem_lower_mark (by decide)] at newlineFree

theorem Level.lower_toString (level : Level) :
    (lower level.toString, level) ∈ levelSpellings := by
  cases level <;> decide

theorem decimal_reads {size : Nat} (fits : size < 2 ^ 64) :
    decimal (trim (Nat.toDigits 10 size)) = some size ∧
      '\n' ∉ Nat.toDigits 10 size := by
  constructor
  · rw [trim_toDigits]
    exact decimal_toDigits fits
  · intro member
    exact isSpace_of_isDigit
      (Nat.isDigit_of_mem_toDigits (by decide) (by decide) member) rfl

/-- Every notation fits on a line and is valid for the value it stands for. -/
theorem Field.reads_of_spells {field : Field} {value : field.Value}
    {text : Text} (writable : field.Writable value)
    (spells : field.Spells value text) :
    field.valid (trim text) = some value ∧ '\n' ∉ text := by
  cases field with
  | mode => exact modeSpellings_unambiguous.reads spells
  | level =>
      apply levelSpellings_unambiguous.reads
      rcases spells with listed | rfl
      · exact listed
      · exact Level.lower_toString value
  | pattern | filePath =>
      obtain rfl := spells
      exact ⟨congrArg some (Verbatim.trim_eq writable),
        Verbatim.newlineFree writable⟩
  | queueCapacity | rotationMaxFileSize | rotationMaxFile
  | flushIntervalMs =>
      obtain rfl := spells
      exact decimal_reads writable
  | overflowPolicy => exact overflowPolicySpellings_unambiguous.reads spells
  | enableConsole | enableFile | rotationEnabled | coloredOutput
  | flushOnError => exact boolSpellings_unambiguous.reads spells

theorem assignment_of_mem_keys {field : Field} {key : Text}
    (named : lower key ∈ field.keys) (value : Text) :
    assignment (key ++ '=' :: value) = some (lower key, trim value) := by
  obtain ⟨trimmed, noDelimiter, noComment, _⟩ := field.keys_plain _ named
  have absent : '=' ∉ key := by
    rwa [mem_lower_mark (by decide)] at noDelimiter
  have uncommented : ¬ (lower key).head? = some '#' :=
    fun commented => noComment (List.mem_of_mem_head? commented)
  rw [assignment_append absent, lower_trim, trimmed, if_neg uncommented]

section Writes

variable {config : Config} {field other : Field} {line : Text}

theorem Field.Writes.newlineFree (writes : field.Writes config line)
    (writable : field.Writable (field.get config)) : '\n' ∉ line := by
  obtain ⟨key, value, rfl, named, spells⟩ := writes
  obtain ⟨_, _, _, keyNewlineFree⟩ := field.keys_plain _ named
  have inKey : '\n' ∉ key := by
    rwa [mem_lower_mark (by decide)] at keyNewlineFree
  obtain ⟨_, inValue⟩ := reads_of_spells writable spells
  simp [inKey, inValue]

/-- A line gives its own field the value written, and no other field
anything. -/
theorem Field.Writes.given_eq (writes : field.Writes config line)
    (writable : field.Writable (field.get config)) :
    given other.keys other.valid line =
      if field = other then some (other.get config) else none := by
  obtain ⟨key, value, rfl, named, spells⟩ := writes
  rw [given, assignment_of_mem_keys named]
  by_cases same : field = other
  · subst other
    rw [if_pos rfl]
    dsimp only
    rw [if_pos named]
    exact (reads_of_spells writable spells).1
  · have unnamed : lower key ∉ other.keys :=
      fun namedOther => same (eq_of_mem_keys named namedOther)
    rw [if_neg same]
    exact if_neg unnamed

end Writes

theorem parse_unlines {written : List Text}
    (newlineFree : ∀ line ∈ written, '\n' ∉ line) :
    parse (unlines written) = written.foldl parseLine {} := by
  rw [parse, lines_unlines newlineFree]

private theorem exists_of_forall₂ {α β : Type} {related : α → β → Prop}
    {left : List α} {right : List β}
    (all : List.Forall₂ related left right) :
    ∀ item ∈ right, ∃ source ∈ left, related source item := by
  induction all with
  | nil => simp
  | cons here _ induction =>
      intro item member
      rcases List.mem_cons.mp member with rfl | later
      · exact ⟨_, .head _, here⟩
      · obtain ⟨source, sourceMember, holds⟩ := induction item later
        exact ⟨source, .tail _ sourceMember, holds⟩

theorem parse_unlines_written {config : Config} {order : List Field}
    {written : List Text}
    (writable : ∀ field : Field, field.Writable (field.get config))
    (complete : order.Perm Field.all)
    (writes : List.Forall₂ (fun field line => field.Writes config line)
      order written) :
    parse (unlines written) = config := by
  have written_by : ∀ line ∈ written, ∃ field ∈ order,
      field.Writes config line :=
    exists_of_forall₂ writes
  have newlineFree : ∀ line ∈ written, '\n' ∉ line := by
    intro line member
    obtain ⟨field, _, wrote⟩ := written_by line member
    exact wrote.newlineFree (writable field)
  rw [parse_unlines newlineFree]
  apply Field.ext_get
  intro field
  rw [foldl_field field.hasKeys.parseLine_eq]
  apply lastGiven_eq
  · intro line member value gives
    obtain ⟨writer, _, wrote⟩ := written_by line member
    rw [wrote.given_eq (writable writer)] at gives
    split at gives
    · exact (Option.some.inj gives).symm
    · cases gives
  · have member : field ∈ order := complete.mem_iff.mpr field.mem_all
    obtain ⟨line, lineMember, wrote⟩ :=
      exists_of_forall₂ writes.flip field member
    refine ⟨line, lineMember, ?_⟩
    exact (Field.Writes.given_eq wrote (writable field)).trans (if_pos rfl)

/-- A text with a line for each field is read back as the configuration it
was written from, with or without the final newline. -/
theorem parse_written {config : Config} {order : List Field}
    {written : List Text} {text : Text}
    (writable : ∀ field : Field, field.Writable (field.get config))
    (complete : order.Perm Field.all)
    (writes : List.Forall₂ (fun field line => field.Writes config line)
      order written)
    (laidOut : text = unlines written ∨ text ++ ['\n'] = unlines written) :
    parse text = config := by
  rcases laidOut with rfl | terminated
  · exact parse_unlines_written writable complete writes
  · have final : parse (text ++ ['\n']) = parse text :=
      parseFrom_append_final {} text
    rw [← final, terminated]
    exact parse_unlines_written writable complete writes

/-- One notation of a value. -/
def Field.spelling : (field : Field) → field.Value → Text
  | .mode, .sync => "sync".toList
  | .mode, .async => "async".toList
  | .level, value => value.toString
  | .pattern, value | .filePath, value => value
  | .queueCapacity, value | .rotationMaxFileSize, value
  | .rotationMaxFile, value | .flushIntervalMs, value =>
      Nat.toDigits 10 value
  | .overflowPolicy, .block => "block".toList
  | .overflowPolicy, .dropNewest => "drop_newest".toList
  | .overflowPolicy, .dropOldest => "drop_oldest".toList
  | .overflowPolicy, .discard => "discard".toList
  | .enableConsole, value | .enableFile, value | .rotationEnabled, value
  | .coloredOutput, value | .flushOnError, value =>
      if value then "true".toList else "false".toList

/-- The line of a field, under its first key. -/
def Field.line (field : Field) (config : Config) : Text :=
  field.keys.headD [] ++ '=' :: field.spelling (field.get config)

def Config.write (config : Config) : Text :=
  unlines (Field.all.map fun field => field.line config)

theorem Field.spells_spelling (field : Field) (value : field.Value) :
    field.Spells value (field.spelling value) := by
  cases field with
  | mode => cases value <;> decide
  | level => exact .inr rfl
  | pattern | filePath => rfl
  | queueCapacity | rotationMaxFileSize | rotationMaxFile
  | flushIntervalMs => rfl
  | overflowPolicy => cases value <;> decide
  | enableConsole | enableFile | rotationEnabled | coloredOutput
  | flushOnError => cases value <;> decide

theorem Field.line_writes (field : Field) (config : Config) :
    field.Writes config (field.line config) := by
  refine ⟨_, _, rfl, ?_, field.spells_spelling _⟩
  cases field <;> decide

theorem parse_write {config : Config}
    (writable : ∀ field : Field, field.Writable (field.get config)) :
    parse config.write = config := by
  refine parse_unlines_written writable (.refl _) ?_
  rw [List.forall₂_map_right_iff, List.forall₂_same]
  intro field _
  exact field.line_writes config

/-- No field has its default value, the keys are aliases where there are any,
the letters of keys and values are mixed, and the last line is not ended. -/
theorem parse_written_aliases :
    parse (unlines
      ["Overflow_Policy=DropOldest".toList, "Mode=Synchronous".toList,
        "Queue_Capacity=64".toList, "LEVEL=Warning".toList,
        "Console_Enabled=0".toList, "FILE_ENABLED=Yes".toList,
        "file_path=out/My App.txt".toList, "pattern=%l: %m".toList,
        "Rotation_Enabled=On".toList, "Rotation_Max_File_Size=4096".toList,
        "rotation_max_FILES=2".toList, "Flush_Interval_Ms=250".toList,
        "Colored_Output=No".toList] ++ "flush_on_error=OFF".toList) =
      { mode := .sync
        level := .warn
        coloredOutput := false
        flushOnError := false
        pattern := "%l: %m".toList
        enableConsole := false
        enableFile := true
        filePath := "out/My App.txt".toList
        rotation := { enabled := true, maxFileSize := 4096, maxFile := 2 }
        queueCapacity := 64
        overflowPolicy := .dropOldest
        flushIntervalMs := 250 } := by
  let entries : List (Field × Text × Text) :=
    [(.overflowPolicy, "Overflow_Policy".toList, "DropOldest".toList),
      (.mode, "Mode".toList, "Synchronous".toList),
      (.queueCapacity, "Queue_Capacity".toList, "64".toList),
      (.level, "LEVEL".toList, "Warning".toList),
      (.enableConsole, "Console_Enabled".toList, "0".toList),
      (.enableFile, "FILE_ENABLED".toList, "Yes".toList),
      (.filePath, "file_path".toList, "out/My App.txt".toList),
      (.pattern, "pattern".toList, "%l: %m".toList),
      (.rotationEnabled, "Rotation_Enabled".toList, "On".toList),
      (.rotationMaxFileSize, "Rotation_Max_File_Size".toList,
        "4096".toList),
      (.rotationMaxFile, "rotation_max_FILES".toList, "2".toList),
      (.flushIntervalMs, "Flush_Interval_Ms".toList, "250".toList),
      (.coloredOutput, "Colored_Output".toList, "No".toList),
      (.flushOnError, "flush_on_error".toList, "OFF".toList)]
  refine @parse_written _ (entries.map Prod.fst)
    (entries.map fun entry => entry.2.1 ++ '=' :: entry.2.2) _ ?_
    (by decide +kernel) ?_ (.inr (by decide +kernel))
  · intro field
    cases field with
    | pattern | filePath =>
        refine ⟨by decide, ?_, ?_⟩
        all_goals
          rintro ch ⟨⟩
          decide
    | _ => simp [Field.Writable, Field.get]
  · rw [List.forall₂_map_left_iff, List.forall₂_map_right_iff,
      List.forall₂_same]
    intro entry member
    refine ⟨entry.2.1, entry.2.2, rfl, ?_⟩
    revert entry
    decide +kernel

end LogParse
