import LogParse.Config
import LogParse.Library.Updates

/-!
# The configuration file

`ConfigParser::parse` and everything it calls, in the "C" locale.  The text is
what the stream still holds.
-/

namespace LogParse

/-- `std::isspace`. -/
def isSpace (ch : Char) : Bool :=
  ch.toNat = 32 || (9 ≤ ch.toNat && ch.toNat ≤ 13)

def trim (value : Text) : Text :=
  let first := value.findIdx fun ch => !isSpace ch
  let last := value.length - value.reverse.findIdx fun ch => !isSpace ch
  if last ≤ first then [] else (value.take last).drop first

def lower (value : Text) : Text := value.map Char.toLower

/-- `std::from_chars` for a `std::size_t` in base ten: the number the longest
prefix of digits denotes and what follows it.  It fails without a digit and
when the number does not fit. -/
def fromChars (value : Text) : Option (Nat × Text) :=
  let digits := value.takeWhile Char.isDigit
  let parsed := Nat.ofDigitChars 10 digits 0
  if digits = [] ∨ 2 ^ 64 ≤ parsed then none
  else some (parsed, value.dropWhile Char.isDigit)

def parseSize (value : Text) : Option Nat :=
  match fromChars (trim value) with
  | some (parsed, []) => some parsed
  | _ => none

def parseLevel (value : Text) : Option Level :=
  let normalized := lower (trim value)
  if normalized = "trace".toList then some .trace
  else if normalized = "debug".toList then some .debug
  else if normalized = "info".toList then some .info
  else if normalized = "warn".toList ∨ normalized = "warning".toList then
    some .warn
  else if normalized = "error".toList then some .error
  else if normalized = "fatal".toList then some .fatal
  else if normalized = "off".toList then some .off
  else none

def parseMode (value : Text) : Option LoggerMode :=
  let normalized := lower (trim value)
  if normalized = "sync".toList ∨ normalized = "synchronous".toList then
    some .sync
  else if normalized = "async".toList ∨
      normalized = "asynchronous".toList then
    some .async
  else none

def parseOverflowPolicy (value : Text) : Option OverflowPolicy :=
  let normalized := lower (trim value)
  if normalized = "block".toList then some .block
  else if normalized = "dropnewest".toList ∨
      normalized = "drop_newest".toList then
    some .dropNewest
  else if normalized = "dropoldest".toList ∨
      normalized = "drop_oldest".toList then
    some .dropOldest
  else if normalized = "discard".toList then some .discard
  else none

def parseBool (value : Text) : Option Bool :=
  let normalized := lower (trim value)
  if normalized = "true".toList ∨ normalized = "yes".toList ∨
      normalized = "on".toList ∨ normalized = "1".toList then
    some true
  else if normalized = "false".toList ∨ normalized = "no".toList ∨
      normalized = "off".toList ∨ normalized = "0".toList then
    some false
  else none

/-- `if (auto value = parsed) field = *value;` -/
def assign {α : Type} (config : Config) (parsed : Option α)
    (store : α → Config) : Config :=
  match parsed with
  | some value => store value
  | none => config

def apply (config : Config) (key value : Text) : Config :=
  let normalizedKey := lower (trim key)
  let trimmedValue := trim value
  if normalizedKey = "mode".toList then
    assign config (parseMode trimmedValue) fun mode =>
      { config with mode := mode }
  else if normalizedKey = "level".toList then
    assign config (parseLevel trimmedValue) fun level =>
      { config with level := level }
  else if normalizedKey = "pattern".toList then
    { config with pattern := trimmedValue }
  else if normalizedKey = "queue_size".toList ∨
      normalizedKey = "queue_capacity".toList then
    assign config (parseSize trimmedValue) fun size =>
      { config with queueCapacity := size }
  else if normalizedKey = "overflow_policy".toList then
    assign config (parseOverflowPolicy trimmedValue) fun policy =>
      { config with overflowPolicy := policy }
  else if normalizedKey = "console".toList ∨
      normalizedKey = "console_enabled".toList then
    assign config (parseBool trimmedValue) fun enabled =>
      { config with enableConsole := enabled }
  else if normalizedKey = "file".toList ∨
      normalizedKey = "file_enabled".toList then
    assign config (parseBool trimmedValue) fun enabled =>
      { config with enableFile := enabled }
  else if normalizedKey = "file_path".toList then
    { config with filePath := trimmedValue }
  else if normalizedKey = "rotation".toList ∨
      normalizedKey = "rotation_enabled".toList then
    assign config (parseBool trimmedValue) fun enabled =>
      { config with rotation := { config.rotation with enabled := enabled } }
  else if normalizedKey = "rotation_max_file_size".toList then
    assign config (parseSize trimmedValue) fun size =>
      { config with rotation := { config.rotation with maxFileSize := size } }
  else if normalizedKey = "rotation_max_files".toList then
    assign config (parseSize trimmedValue) fun files =>
      { config with rotation := { config.rotation with maxFile := files } }
  else if normalizedKey = "flush_interval".toList ∨
      normalizedKey = "flush_interval_ms".toList then
    assign config (parseSize trimmedValue) fun interval =>
      { config with flushIntervalMs := interval }
  else if normalizedKey = "colored_output".toList then
    assign config (parseBool trimmedValue) fun enabled =>
      { config with coloredOutput := enabled }
  else if normalizedKey = "flush_on_error".toList then
    assign config (parseBool trimmedValue) fun enabled =>
      { config with flushOnError := enabled }
  else config

/-- The lines `std::getline` yields, one call after the other.  The last one
need not end in a newline. -/
def lines : Text → List Text
  | [] => []
  | ch :: rest =>
      if ch = '\n' then [] :: lines rest
      else
        match rest, lines rest with
        | [], _ | _, [] => [[ch]]
        | _, line :: others => (ch :: line) :: others

/-- The body of the loop of `parse`. -/
def parseLine (config : Config) (line : Text) : Config :=
  let stripped := trim line
  if stripped = [] ∨ stripped.head? = some '#' then config
  else
    match stripped.idxOf? '=' with
    | none => config
    | some delimiter =>
        apply config (stripped.take delimiter) (stripped.drop (delimiter + 1))

def parse (input : Text) : Config := (lines input).foldl parseLine {}

/-- `read` answers with the bytes of a file that opens. -/
def parseFile (read : Text → Option Text) (path : Text) :
    Except Text Config :=
  match read path with
  | none => throw ("failed to open logger config file: ".toList ++ path)
  | some input => pure (parse input)

/-- The normalized key of a line and its trimmed value.  Blank lines, comments
and lines without a delimiter assign nothing. -/
def assignment (line : Text) : Option (Text × Text) :=
  let stripped := trim line
  if stripped = [] ∨ stripped.head? = some '#' then none
  else
    (stripped.idxOf? '=').map fun delimiter =>
      (lower (trim (stripped.take delimiter)),
        trim (stripped.drop (delimiter + 1)))

/-- The value a line gives to the field with these keys. -/
def given {α : Type} (keys : List Text) (valid : Text → Option α)
    (line : Text) : Option α :=
  match assignment line with
  | some (key, value) => if key ∈ keys then valid value else none
  | none => none

/-- The value of the last line of the text that gives the field a valid
one. -/
def lastValid {α : Type} (keys : List Text) (valid : Text → Option α)
    (initial : α) (input : Text) : α :=
  lastGiven (given keys valid) initial (lines input)

/-- A field of the configuration is overwritten by the lines with its keys and
by no others. -/
structure HasKeys {α : Type} (field : Config → α) (keys : List Text)
    (valid : Text → Option α) : Prop where
  apply_eq : ∀ config key value,
    field (apply config key value) =
      (if lower (trim key) ∈ keys then valid (trim value) else none).getD
        (field config)

theorem HasKeys.parseLine_eq {α : Type} {field : Config → α}
    {keys : List Text} {valid : Text → Option α}
    (hasKeys : HasKeys field keys valid) (config : Config) (line : Text) :
    field (parseLine config line) =
      (given keys valid line).getD (field config) := by
  simp only [parseLine, given, assignment]
  split
  · rfl
  · cases found : (trim line).idxOf? '=' with
    | none => rfl
    | some delimiter => simpa using hasKeys.apply_eq config _ _

theorem HasKeys.parse_eq {α : Type} {field : Config → α}
    {keys : List Text} {valid : Text → Option α}
    (hasKeys : HasKeys field keys valid) (input : Text) :
    field (parse input) = lastValid keys valid (field {}) input :=
  foldl_field hasKeys.parseLine_eq (lines input) {}

def modeKeys : List Text := ["mode".toList]

def queueCapacityKeys : List Text :=
  ["queue_size".toList, "queue_capacity".toList]

def overflowPolicyKeys : List Text := ["overflow_policy".toList]

end LogParse
