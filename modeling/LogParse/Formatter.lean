import LogParse.Config

/-!
# Records and the formatter

A pattern is compiled once into tokens.  Formatting appends the tokens of a
record to a buffer and ends with a newline.  The timestamp of the last second
that was rendered on a thread is cached there, for all formatters together.

What the formatter asks of the platform is a parameter: the seconds of a time
point, the local time of a second, what fmt renders of it, and the hash of a
thread id.  A rendering may throw after it has appended part of its output.
-/

namespace LogParse

/-- A thread id is known by a number. -/
structure LogRecord where
  timestamp : Int := 0
  level : Level := .info
  threadId : Nat := 0
  processId : Nat := 0
  file : Text := []
  function : Text := []
  line : Nat := 0
  message : Text := []
  loggerName : Text := []
  deriving DecidableEq, Repr, Inhabited

structure Platform where
  Tm : Type
  toTimeT : Int → Int
  localTime : Int → Tm
  formatTime : Text → Tm → Text
  hashThreadId : Nat → Nat

/-- A platform on which every time point is the epoch, in UTC. -/
def Platform.epoch : Platform where
  Tm := Unit
  toTimeT _ := 0
  localTime _ := ()
  formatTime format _ := format.flatMap fun letter =>
    match letter with
    | '%' => []
    | 'Y' => ['1', '9', '7', '0']
    | 'm' | 'd' => ['0', '1']
    | 'H' | 'M' | 'S' => ['0', '0']
    | other => [other]
  hashThreadId := id

inductive TokenKind where
  | literal
  | timestamp
  | year
  | month
  | day
  | hour
  | minute
  | second
  | level
  | threadId
  | processId
  | file
  | function
  | line
  | loggerName
  | message
  deriving DecidableEq, Repr

structure Token where
  kind : TokenKind
  literal : Text := []
  deriving DecidableEq, Repr

def defaultPattern : Text := "[%Y-%m-%d %H:%M:%S] [%l] [T%t] %m".toList

def timestampPattern : Text := "%Y-%m-%d %H:%M:%S".toList

/-- The locals of `compile_pattern`. -/
structure Compiling where
  tokens : List Token := []
  literal : Text := []
  deriving DecidableEq, Repr

namespace Compiling

def flushLiteral (state : Compiling) : Compiling :=
  if state.literal = [] then state
  else { tokens := state.tokens ++ [⟨.literal, state.literal⟩] }

def pushToken (state : Compiling) (kind : TokenKind) (literal : Text := []) :
    Compiling :=
  { state with tokens := state.tokens ++ [⟨kind, literal⟩] }

def pushLiteral (state : Compiling) (text : Text) : Compiling :=
  { state with literal := state.literal ++ text }

/-- The `switch` on the character after a percent sign. -/
def pushSpecifier (state : Compiling) (letter : Char) : Compiling :=
  match letter with
  | 'Y' => state.pushToken .year
  | 'd' => state.pushToken .day
  | 'H' => state.pushToken .hour
  | 'M' => state.pushToken .minute
  | 'S' => state.pushToken .second
  | 'l' | 'L' => state.pushToken .level
  | 't' => state.pushToken .threadId
  | 'p' => state.pushToken .processId
  | 'f' => state.pushToken .file
  | 'F' => state.pushToken .function
  | '#' => state.pushToken .line
  | 'n' => state.pushToken .loggerName
  | 'm' | 'v' => state.pushToken .message
  | '%' => state.pushToken .literal ['%']
  | _ => state.pushLiteral ['%', letter]

/-- The loop of `compile_pattern` on what is left of the pattern.  `skip`
counts the characters that `i` has moved past already. -/
def scan (state : Compiling) : Nat → Text → Compiling
  | _, [] => state
  | skip + 1, _ :: rest => state.scan skip rest
  | 0, ch :: rest =>
      if timestampPattern.isPrefixOf (ch :: rest) then
        (state.flushLiteral.pushToken .timestamp).scan
          (timestampPattern.length - 1) rest
      else if ch ≠ '%' then
        (state.pushLiteral [ch]).scan 0 rest
      else
        match rest with
        | [] => state.pushLiteral ['%']
        | letter :: rest =>
            (state.flushLiteral.pushSpecifier letter).scan 0 rest

end Compiling

def compilePattern (pattern : Text) : List Token :=
  (Compiling.scan {} 0 pattern).flushLiteral.tokens

/-- The thread-local variables of `append_timestamp`. -/
structure TimestampCache where
  cachedSeconds : Int := 0
  cacheValid : Bool := false
  cachedTimestamp : Text := []
  deriving DecidableEq, Repr

section Format

variable (platform : Platform)

/-- The rendering of a second with `{:%Y-%m-%d %H:%M:%S}`. -/
def renderTimestamp (seconds : Int) : Text :=
  platform.formatTime timestampPattern (platform.localTime seconds)

/-- With `throws`, the rendering ends in an exception after so many
characters. -/
def appendTimestamp (throws : Option Nat) (cache : TimestampCache)
    (buffer : Text) (record : LogRecord) : Option Text × TimestampCache :=
  let seconds := platform.toTimeT record.timestamp
  if !cache.cacheValid || cache.cachedSeconds ≠ seconds then
    let rendering := renderTimestamp platform seconds
    match throws with
    | some length =>
        (none, ⟨seconds, true, rendering.take length⟩)
    | none => (some (buffer ++ rendering), ⟨seconds, true, rendering⟩)
  else (some (buffer ++ cache.cachedTimestamp), cache)

/-- What `append_time_component` and the other branches of `append_token`
append, the timestamp aside. -/
def renderField (token : Token) (record : LogRecord) : Text :=
  let tm := platform.localTime (platform.toTimeT record.timestamp)
  match token.kind with
  | .literal => token.literal
  | .timestamp => []
  | .year => platform.formatTime "%Y".toList tm
  | .month => platform.formatTime "%m".toList tm
  | .day => platform.formatTime "%d".toList tm
  | .hour => platform.formatTime "%H".toList tm
  | .minute => platform.formatTime "%M".toList tm
  | .second => platform.formatTime "%S".toList tm
  | .level => record.level.toString
  | .threadId => Nat.toDigits 10 (platform.hashThreadId record.threadId)
  | .processId => Nat.toDigits 10 record.processId
  | .file => record.file
  | .function => record.function
  | .line => Nat.toDigits 10 record.line
  | .loggerName => record.loggerName
  | .message => record.message

/-- `none` is an exception. -/
def appendToken (throws : Option Nat) (cache : TimestampCache)
    (buffer : Text) (token : Token) (record : LogRecord) :
    Option Text × TimestampCache :=
  match token.kind, throws with
  | .timestamp, _ => appendTimestamp platform throws cache buffer record
  | _, some _ => (none, cache)
  | _, none => (some (buffer ++ renderField platform token record), cache)

/-- The loop of `format`.  With `throws`, the token at that position throws
after so many characters. -/
def appendTokens (record : LogRecord) :
    Option (Nat × Nat) → TimestampCache → Text → List Token →
      Option Text × TimestampCache
  | _, cache, buffer, [] => (some buffer, cache)
  | throws, cache, buffer, token :: tokens =>
      let here := throws.bind fun (position, length) =>
        if position = 0 then some length else none
      let later := throws.map fun (position, length) => (position - 1, length)
      match appendToken platform here cache buffer token record with
      | (some buffer, cache) => appendTokens record later cache buffer tokens
      | (none, cache) => (none, cache)

end Format

structure Formatter where
  mPattern : Text
  mTokens : List Token
  deriving DecidableEq, Repr

namespace Formatter

def make (pattern : Text) : Formatter :=
  { mPattern := pattern, mTokens := compilePattern pattern }

/-- The constructor without arguments. -/
def makeDefault : Formatter := make defaultPattern

def setPattern (_formatter : Formatter) (pattern : Text) : Formatter :=
  { mPattern := pattern, mTokens := compilePattern pattern }

def format (formatter : Formatter) (platform : Platform)
    (throws : Option (Nat × Nat)) (cache : TimestampCache) (buffer : Text)
    (record : LogRecord) : Option Text × TimestampCache :=
  match appendTokens platform record throws cache buffer formatter.mTokens with
  | (some buffer, cache) => (some (buffer ++ ['\n']), cache)
  | (none, cache) => (none, cache)

/-- What a token stands for, whatever the cache. -/
def renderToken (platform : Platform) (token : Token) (record : LogRecord) :
    Text :=
  match token.kind with
  | .timestamp =>
      renderTimestamp platform (platform.toTimeT record.timestamp)
  | _ => renderField platform token record

/-- What `format` appends when nothing throws. -/
def render (formatter : Formatter) (platform : Platform)
    (record : LogRecord) : Text :=
  (formatter.mTokens.flatMap fun token =>
    renderToken platform token record) ++ ['\n']

end Formatter

/-- A valid cache holds the rendering of its second. -/
def TimestampCache.Sound (platform : Platform) (cache : TimestampCache) :
    Prop :=
  cache.cacheValid = true →
    cache.cachedTimestamp = renderTimestamp platform cache.cachedSeconds

section Format

variable {platform : Platform} {cache : TimestampCache}

theorem TimestampCache.Sound.empty :
    TimestampCache.Sound platform {} := by
  simp [TimestampCache.Sound]

/-- The cache holds the second of the record. -/
def TimestampCache.Hits (platform : Platform) (cache : TimestampCache)
    (record : LogRecord) : Prop :=
  cache.cacheValid = true ∧
    cache.cachedSeconds = platform.toTimeT record.timestamp

theorem appendTimestamp_hit {record : LogRecord}
    (hits : cache.Hits platform record) (throws : Option Nat)
    (buffer : Text) :
    appendTimestamp platform throws cache buffer record =
      (some (buffer ++ cache.cachedTimestamp), cache) := by
  obtain ⟨valid, same⟩ := hits
  simp [appendTimestamp, valid, same]

theorem appendTimestamp_miss {record : LogRecord}
    (misses : ¬ cache.Hits platform record) (throws : Option Nat)
    (buffer : Text) :
    appendTimestamp platform throws cache buffer record =
      let seconds := platform.toTimeT record.timestamp
      let rendering := renderTimestamp platform seconds
      match throws with
      | some length => (none, ⟨seconds, true, rendering.take length⟩)
      | none => (some (buffer ++ rendering), ⟨seconds, true, rendering⟩) := by
  apply if_pos
  by_contra fresh
  exact misses (by simpa [TimestampCache.Hits] using fresh)

theorem appendTimestamp_spec (sound : cache.Sound platform) (buffer : Text)
    (record : LogRecord) :
    ∃ after, appendTimestamp platform none cache buffer record =
        (some (buffer ++ renderTimestamp platform
          (platform.toTimeT record.timestamp)), after) ∧
      after.Sound platform := by
  by_cases hits : cache.Hits platform record
  · refine ⟨cache, ?_, sound⟩
    rw [appendTimestamp_hit hits, sound hits.1, hits.2]
  · exact ⟨_, appendTimestamp_miss hits none buffer, fun _ => rfl⟩

theorem appendToken_spec (sound : cache.Sound platform) (buffer : Text)
    (token : Token) (record : LogRecord) :
    ∃ after, appendToken platform none cache buffer token record =
        (some (buffer ++ Formatter.renderToken platform token record),
          after) ∧
      after.Sound platform := by
  cases kind : token.kind with
  | timestamp =>
      obtain ⟨after, appended, afterSound⟩ :=
        appendTimestamp_spec sound buffer record
      refine ⟨after, ?_, afterSound⟩
      simp [appendToken, Formatter.renderToken, kind, appended]
  | _ =>
      refine ⟨cache, ?_, sound⟩
      simp [appendToken, Formatter.renderToken, kind]

theorem appendTokens_spec (sound : cache.Sound platform) (buffer : Text)
    (tokens : List Token) (record : LogRecord) :
    ∃ after, appendTokens platform record none cache buffer tokens =
        (some (buffer ++ tokens.flatMap fun token =>
          Formatter.renderToken platform token record), after) ∧
      after.Sound platform := by
  induction tokens generalizing cache buffer with
  | nil => exact ⟨cache, by simp [appendTokens], sound⟩
  | cons token tokens induction =>
      obtain ⟨next, appended, nextSound⟩ :=
        appendToken_spec sound buffer token record
      obtain ⟨after, rest, afterSound⟩ := induction nextSound
        (buffer ++ Formatter.renderToken platform token record)
      refine ⟨after, ?_, afterSound⟩
      simp [appendTokens, appended, rest]

/-- The cache never shows: what is appended depends on the tokens and the
record alone. -/
theorem Formatter.format_spec (formatter : Formatter)
    (sound : cache.Sound platform) (buffer : Text) (record : LogRecord) :
    ∃ after, formatter.format platform none cache buffer record =
        (some (buffer ++ formatter.render platform record), after) ∧
      after.Sound platform := by
  obtain ⟨after, appended, afterSound⟩ :=
    appendTokens_spec sound buffer formatter.mTokens record
  refine ⟨after, ?_, afterSound⟩
  simp [Formatter.format, Formatter.render, appended]

end Format

end LogParse
