import LogParse.Parser
import LogParse.Library.Strip
import Mathlib.Tactic.FinCases

/-!
# The fields of a configuration file

Each field of the configuration has its documented keys and its documented
valid values.  The if-chain of `apply` is a dispatch on the field a key belongs
to, so `parse` leaves every field with the last valid value a line gives it.
-/

namespace LogParse

private theorem take_eq_rdropWhile (value : Text) :
    value.take (value.length - value.reverse.findIdx fun ch => !isSpace ch) =
      value.rdropWhile isSpace := by
  rw [List.rdropWhile, List.dropWhile_eq_drop_findIdx_not,
    List.drop_reverse, List.reverse_reverse]

private theorem findIdx_solid {before after : Text} {separator : Char}
    (blank : ∀ ch ∈ before, isSpace ch = true)
    (solid : ¬ isSpace separator = true) :
    (before ++ separator :: after).findIdx (fun ch => !isSpace ch) =
      before.length := by
  have none : before.findIdx (fun ch => !isSpace ch) = before.length :=
    List.findIdx_eq_length_of_false (by simpa using blank)
  rw [List.findIdx_append, none, if_neg (Nat.lt_irrefl _)]
  simp [List.findIdx_cons, solid]

theorem trim_eq_strip (value : Text) : trim value = strip isSpace value := by
  have last : value.length -
      value.reverse.findIdx (fun ch => !isSpace ch) =
        (value.rdropWhile isSpace).length := by
    rw [← take_eq_rdropWhile, List.length_take]
    omega
  simp only [trim]
  rw [take_eq_rdropWhile, last]
  by_cases blank : ∀ ch ∈ value, isSpace ch = true
  · rw [strip_eq_nil blank, List.rdropWhile_eq_nil_iff.mpr blank]
    simp
  · obtain ⟨before, separator, after, rfl, blankBefore, solid⟩ :=
      exists_first_not_blank blank
    rw [findIdx_solid blankBefore solid, strip_append_cons solid,
      rdropWhile_append_cons solid,
      List.dropWhile_eq_nil_iff.mpr blankBefore, if_neg (by simp)]
    simp

@[simp] theorem trim_trim (value : Text) : trim (trim value) = trim value := by
  simp only [trim_eq_strip, strip_strip]

inductive Field where
  | mode
  | level
  | pattern
  | queueCapacity
  | overflowPolicy
  | enableConsole
  | enableFile
  | filePath
  | rotationEnabled
  | rotationMaxFileSize
  | rotationMaxFile
  | flushIntervalMs
  | coloredOutput
  | flushOnError
  deriving DecidableEq, Repr

def modeSpellings : List (Text × LoggerMode) :=
  [("sync".toList, .sync), ("synchronous".toList, .sync),
    ("async".toList, .async), ("asynchronous".toList, .async)]

def levelSpellings : List (Text × Level) :=
  [("trace".toList, .trace), ("debug".toList, .debug),
    ("info".toList, .info), ("warn".toList, .warn),
    ("warning".toList, .warn), ("error".toList, .error),
    ("fatal".toList, .fatal), ("off".toList, .off)]

def overflowPolicySpellings : List (Text × OverflowPolicy) :=
  [("block".toList, .block), ("drop_newest".toList, .dropNewest),
    ("dropnewest".toList, .dropNewest), ("drop_oldest".toList, .dropOldest),
    ("dropoldest".toList, .dropOldest), ("discard".toList, .discard)]

def boolSpellings : List (Text × Bool) :=
  [("true".toList, true), ("false".toList, false), ("yes".toList, true),
    ("no".toList, false), ("on".toList, true), ("off".toList, false),
    ("1".toList, true), ("0".toList, false)]

/-- A documented spelling, in any letter case. -/
def spelled {α : Type} (spellings : List (Text × α)) (value : Text) :
    Option α :=
  spellings.lookup (lower value)

/-- A number below `2 ^ 64`, in decimal digits. -/
def decimal (value : Text) : Option Nat :=
  if value ≠ [] ∧ value.all Char.isDigit ∧
      Nat.ofDigitChars 10 value 0 < 2 ^ 64 then
    some (Nat.ofDigitChars 10 value 0)
  else none

namespace Field

abbrev Value : Field → Type
  | .mode => LoggerMode
  | .level => Level
  | .pattern | .filePath => Text
  | .queueCapacity | .rotationMaxFileSize | .rotationMaxFile
  | .flushIntervalMs => Nat
  | .overflowPolicy => OverflowPolicy
  | .enableConsole | .enableFile | .rotationEnabled | .coloredOutput
  | .flushOnError => Bool

def all : List Field :=
  [.mode, .level, .pattern, .queueCapacity, .overflowPolicy, .enableConsole,
    .enableFile, .filePath, .rotationEnabled, .rotationMaxFileSize,
    .rotationMaxFile, .flushIntervalMs, .coloredOutput, .flushOnError]

theorem mem_all (field : Field) : field ∈ all := by
  cases field <;> decide

def get : (field : Field) → Config → field.Value
  | .mode, config => config.mode
  | .level, config => config.level
  | .pattern, config => config.pattern
  | .queueCapacity, config => config.queueCapacity
  | .overflowPolicy, config => config.overflowPolicy
  | .enableConsole, config => config.enableConsole
  | .enableFile, config => config.enableFile
  | .filePath, config => config.filePath
  | .rotationEnabled, config => config.rotation.enabled
  | .rotationMaxFileSize, config => config.rotation.maxFileSize
  | .rotationMaxFile, config => config.rotation.maxFile
  | .flushIntervalMs, config => config.flushIntervalMs
  | .coloredOutput, config => config.coloredOutput
  | .flushOnError, config => config.flushOnError

def set : (field : Field) → Config → field.Value → Config
  | .mode, config, value => { config with mode := value }
  | .level, config, value => { config with level := value }
  | .pattern, config, value => { config with pattern := value }
  | .queueCapacity, config, value => { config with queueCapacity := value }
  | .overflowPolicy, config, value => { config with overflowPolicy := value }
  | .enableConsole, config, value => { config with enableConsole := value }
  | .enableFile, config, value => { config with enableFile := value }
  | .filePath, config, value => { config with filePath := value }
  | .rotationEnabled, config, value =>
      { config with rotation := { config.rotation with enabled := value } }
  | .rotationMaxFileSize, config, value =>
      { config with
        rotation := { config.rotation with maxFileSize := value } }
  | .rotationMaxFile, config, value =>
      { config with rotation := { config.rotation with maxFile := value } }
  | .flushIntervalMs, config, value => { config with flushIntervalMs := value }
  | .coloredOutput, config, value => { config with coloredOutput := value }
  | .flushOnError, config, value => { config with flushOnError := value }

/-- The documented keys. -/
def keys : Field → List Text
  | .mode => modeKeys
  | .level => ["level".toList]
  | .pattern => ["pattern".toList]
  | .queueCapacity => queueCapacityKeys
  | .overflowPolicy => overflowPolicyKeys
  | .enableConsole => ["console".toList, "console_enabled".toList]
  | .enableFile => ["file".toList, "file_enabled".toList]
  | .filePath => ["file_path".toList]
  | .rotationEnabled => ["rotation".toList, "rotation_enabled".toList]
  | .rotationMaxFileSize => ["rotation_max_file_size".toList]
  | .rotationMaxFile => ["rotation_max_files".toList]
  | .flushIntervalMs =>
      ["flush_interval".toList, "flush_interval_ms".toList]
  | .coloredOutput => ["colored_output".toList]
  | .flushOnError => ["flush_on_error".toList]

/-- The value a trimmed text is a valid notation of, by the documentation. -/
def valid : (field : Field) → Text → Option field.Value
  | .mode, value => spelled modeSpellings value
  | .level, value => spelled levelSpellings value
  | .pattern, value | .filePath, value => some value
  | .queueCapacity, value | .rotationMaxFileSize, value
  | .rotationMaxFile, value | .flushIntervalMs, value => decimal value
  | .overflowPolicy, value => spelled overflowPolicySpellings value
  | .enableConsole, value | .enableFile, value | .rotationEnabled, value
  | .coloredOutput, value | .flushOnError, value =>
      spelled boolSpellings value

/-- What `apply` makes of a trimmed text. -/
def parsed : (field : Field) → Text → Option field.Value
  | .mode, value => parseMode value
  | .level, value => parseLevel value
  | .pattern, value | .filePath, value => some value
  | .queueCapacity, value | .rotationMaxFileSize, value
  | .rotationMaxFile, value | .flushIntervalMs, value => parseSize value
  | .overflowPolicy, value => parseOverflowPolicy value
  | .enableConsole, value | .enableFile, value | .rotationEnabled, value
  | .coloredOutput, value | .flushOnError, value => parseBool value

@[simp] theorem get_set_self (field : Field) (config : Config)
    (value : field.Value) : field.get (field.set config value) = value := by
  cases field <;> rfl

theorem get_set_other {field other : Field} (different : field ≠ other)
    (config : Config) (value : field.Value) :
    other.get (field.set config value) = other.get config := by
  cases field <;> cases other <;> first | rfl | exact absurd rfl different

/-- A configuration is its fields. -/
theorem ext_get {config other : Config}
    (same : ∀ field : Field, field.get config = field.get other) :
    config = other := by
  obtain ⟨mode, level, colored, onError, pattern, console, file, path,
    ⟨enabled, size, files⟩, capacity, policy, interval⟩ := config
  obtain ⟨mode', level', colored', onError', pattern', console', file', path',
    ⟨enabled', size', files'⟩, capacity', policy', interval'⟩ := other
  obtain rfl : mode = mode' := same .mode
  obtain rfl : level = level' := same .level
  obtain rfl : colored = colored' := same .coloredOutput
  obtain rfl : onError = onError' := same .flushOnError
  obtain rfl : pattern = pattern' := same .pattern
  obtain rfl : console = console' := same .enableConsole
  obtain rfl : file = file' := same .enableFile
  obtain rfl : path = path' := same .filePath
  obtain rfl : enabled = enabled' := same .rotationEnabled
  obtain rfl : size = size' := same .rotationMaxFileSize
  obtain rfl : files = files' := same .rotationMaxFile
  obtain rfl : capacity = capacity' := same .queueCapacity
  obtain rfl : policy = policy' := same .overflowPolicy
  obtain rfl : interval = interval' := same .flushIntervalMs
  rfl

end Field

/-- The field a key belongs to. -/
def fieldOf (key : Text) : Option Field :=
  Field.all.find? fun field => field.keys.contains key

theorem Field.fieldOf_eq {field : Field} {key : Text}
    (named : key ∈ field.keys) : fieldOf key = some field := by
  cases field <;> fin_cases named <;> rfl

/-- No key belongs to two fields. -/
theorem Field.eq_of_mem_keys {field other : Field} {key : Text}
    (named : key ∈ field.keys) (namedOther : key ∈ other.keys) :
    field = other :=
  Option.some.inj
    ((fieldOf_eq named).symm.trans (fieldOf_eq namedOther))

theorem apply_of_mem {field : Field} {key : Text}
    (named : lower (trim key) ∈ field.keys) (config : Config)
    (value : Text) :
    apply config key value =
      assign config (field.parsed (trim value)) (field.set config) := by
  simp only [apply]
  generalize lower (trim key) = normalizedKey at named ⊢
  cases field <;> fin_cases named <;> rfl

theorem apply_of_unknown {key : Text}
    (unknown : ∀ field : Field, lower (trim key) ∉ field.keys)
    (config : Config) (value : Text) :
    apply config key value = config := by
  simp only [apply]
  generalize lower (trim key) = normalizedKey at unknown ⊢
  have absent (field : Field) {literal : Text}
      (keys : field.keys = [literal]) : ¬ normalizedKey = literal := by
    simpa [keys] using unknown field
  have absentPair (field : Field) {first second : Text}
      (keys : field.keys = [first, second]) :
      ¬ (normalizedKey = first ∨ normalizedKey = second) := by
    simpa [keys] using unknown field
  rw [if_neg (absent .mode rfl), if_neg (absent .level rfl),
    if_neg (absent .pattern rfl), if_neg (absentPair .queueCapacity rfl),
    if_neg (absent .overflowPolicy rfl),
    if_neg (absentPair .enableConsole rfl),
    if_neg (absentPair .enableFile rfl), if_neg (absent .filePath rfl),
    if_neg (absentPair .rotationEnabled rfl),
    if_neg (absent .rotationMaxFileSize rfl),
    if_neg (absent .rotationMaxFile rfl),
    if_neg (absentPair .flushIntervalMs rfl),
    if_neg (absent .coloredOutput rfl), if_neg (absent .flushOnError rfl)]

theorem Field.hasKeys_parsed (field : Field) :
    HasKeys field.get field.keys field.parsed where
  apply_eq config key value := by
    by_cases named : lower (trim key) ∈ field.keys
    · rw [apply_of_mem named, if_pos named]
      cases field.parsed (trim value) with
      | none => rfl
      | some read => exact field.get_set_self config read
    rw [if_neg named, Option.getD_none]
    by_cases known : ∃ other : Field, lower (trim key) ∈ other.keys
    · obtain ⟨other, namedOther⟩ := known
      have different : other ≠ field := by
        rintro rfl
        exact named namedOther
      rw [apply_of_mem namedOther]
      cases other.parsed (trim value) with
      | none => rfl
      | some read => exact Field.get_set_other different config read
    · rw [apply_of_unknown (not_exists.mp known)]

theorem mode_hasKeys : HasKeys Config.mode modeKeys parseMode :=
  Field.mode.hasKeys_parsed

theorem queueCapacity_hasKeys :
    HasKeys Config.queueCapacity queueCapacityKeys parseSize :=
  Field.queueCapacity.hasKeys_parsed

theorem overflowPolicy_hasKeys :
    HasKeys Config.overflowPolicy overflowPolicyKeys parseOverflowPolicy :=
  Field.overflowPolicy.hasKeys_parsed

/-- What reads the spellings of a table as the table does, and nothing else,
is its lookup. -/
theorem eq_lookup {α : Type} {spellings : List (Text × α)}
    {read : Text → Option α}
    (listed : ∀ key ∈ spellings.map Prod.fst,
      read key = spellings.lookup key)
    (unlisted : ∀ text, text ∉ spellings.map Prod.fst → read text = none)
    (text : Text) : read text = spellings.lookup text := by
  by_cases member : text ∈ spellings.map Prod.fst
  · exact listed text member
  · rw [unlisted text member, eq_comm, List.lookup_eq_none_iff]
    intro entry isEntry
    simp only [bne_iff_ne]
    rintro rfl
    exact member (List.mem_map_of_mem isEntry)

theorem parseMode_trim (value : Text) :
    parseMode (trim value) = spelled modeSpellings (trim value) := by
  simp only [parseMode, trim_trim, spelled]
  generalize lower (trim value) = normalized
  revert normalized
  apply eq_lookup
  · decide
  · intro text absent
    simp only [modeSpellings, List.map_cons, List.map_nil, List.mem_cons,
      List.not_mem_nil, or_false, not_or] at absent
    simp only [absent, or_self, if_false]

theorem parseLevel_trim (value : Text) :
    parseLevel (trim value) = spelled levelSpellings (trim value) := by
  simp only [parseLevel, trim_trim, spelled]
  generalize lower (trim value) = normalized
  revert normalized
  apply eq_lookup
  · decide
  · intro text absent
    simp only [levelSpellings, List.map_cons, List.map_nil, List.mem_cons,
      List.not_mem_nil, or_false, not_or] at absent
    simp only [absent, or_self, if_false]

theorem parseOverflowPolicy_trim (value : Text) :
    parseOverflowPolicy (trim value) =
      spelled overflowPolicySpellings (trim value) := by
  simp only [parseOverflowPolicy, trim_trim, spelled]
  generalize lower (trim value) = normalized
  revert normalized
  apply eq_lookup
  · decide
  · intro text absent
    simp only [overflowPolicySpellings, List.map_cons, List.map_nil,
      List.mem_cons, List.not_mem_nil, or_false, not_or] at absent
    simp only [absent, or_self, if_false]

theorem parseBool_trim (value : Text) :
    parseBool (trim value) = spelled boolSpellings (trim value) := by
  simp only [parseBool, trim_trim, spelled]
  generalize lower (trim value) = normalized
  revert normalized
  apply eq_lookup
  · decide
  · intro text absent
    simp only [boolSpellings, List.map_cons, List.map_nil, List.mem_cons,
      List.not_mem_nil, or_false, not_or] at absent
    simp only [absent, or_self, if_false]

/-- The digits `std::from_chars` takes are the whole text. -/
theorem parseSize_trim (value : Text) :
    parseSize (trim value) = decimal (trim value) := by
  simp only [parseSize, trim_trim]
  generalize trim value = digits
  by_cases onlyDigits : digits.all Char.isDigit = true
  · have all : ∀ ch ∈ digits, ch.isDigit = true :=
      List.all_eq_true.mp onlyDigits
    simp only [fromChars, decimal, onlyDigits,
      List.takeWhile_eq_self_iff.mpr all, List.dropWhile_eq_nil_iff.mpr all]
    by_cases fails : digits = [] ∨ 2 ^ 64 ≤ Nat.ofDigitChars 10 digits 0
    · rw [if_pos fails, if_neg]
      rintro ⟨nonempty, _, fits⟩
      exact fails.elim nonempty fits.not_ge
    · obtain ⟨nonempty, fits⟩ := not_or.mp fails
      rw [if_neg fails, if_pos ⟨nonempty, trivial, not_le.mp fits⟩]
  · have more : digits.dropWhile Char.isDigit ≠ [] := by
      rw [Ne, List.dropWhile_eq_nil_iff]
      simpa using onlyDigits
    rw [decimal, if_neg (fun valid => onlyDigits valid.2.1)]
    simp only [fromChars]
    cases rest : digits.dropWhile Char.isDigit with
    | nil => exact absurd rest more
    | cons ch rest => split <;> simp_all

theorem Field.parsed_trim (field : Field) (value : Text) :
    field.parsed (trim value) = field.valid (trim value) := by
  cases field with
  | mode => exact parseMode_trim value
  | level => exact parseLevel_trim value
  | pattern | filePath => rfl
  | queueCapacity | rotationMaxFileSize | rotationMaxFile
  | flushIntervalMs => exact parseSize_trim value
  | overflowPolicy => exact parseOverflowPolicy_trim value
  | enableConsole | enableFile | rotationEnabled | coloredOutput
  | flushOnError => exact parseBool_trim value

theorem Field.hasKeys (field : Field) :
    HasKeys field.get field.keys field.valid where
  apply_eq config key value := by
    rw [field.hasKeys_parsed.apply_eq, field.parsed_trim]

end LogParse
