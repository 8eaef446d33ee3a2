import LogParse.Library.SharedLock
import LogParse.PatternMeaning
import LogParse.Sink

/-!
# Threads on one synchronous backend

Any number of threads call `SyncBackend::log`, `SyncBackend::flush` and
`Formatter::set_pattern` at once.  The formatter's pattern and tokens are
behind a shared mutex; `format` reads the tokens one by one while it holds it
shared, and `set_pattern` assigns the two members one after the other while it
holds it exclusively.  The scratch buffer and the timestamp cache belong to
the thread, and each sink takes one call at a time.
-/

namespace LogParse

/-- A call of `log`: how many patterns had been installed when it began, the
one in force when it took the mutex, and how many sinks have its bytes. -/
structure Line where
  record : LogRecord
  since : Nat
  version : Nat
  pattern : Text
  reached : Nat := 0
  deriving DecidableEq, Repr

/-- A thread and its place in a call: in `log` before the mutex, in the loop
of `format` or in the loop of `SinkManager::write`; in `set_pattern` before
the mutex or before either assignment; in the loop of `SinkManager::flush`. -/
inductive LogPlace where
  | outside
  | entering (record : LogRecord) (since : Nat)
  | formatting (line : Line) (next : Nat)
  | writing (line : Line)
  | compiled (pattern : Text) (tokens : List Token)
  | locked (pattern : Text) (tokens : List Token)
  | assigned (tokens : List Token)
  | flushing (next : Nat)
  deriving DecidableEq, Repr

/-- The backend, its formatter and its sinks, which are known by their calls
and the threads that made them; the thread-local variables; and the history:
the patterns installed so far and the calls of `log` that have ended. -/
structure LogThreads (ι : Type) where
  formatter : Guarded ι Formatter
  sinks : List (List (ι × SinkEvent))
  places : ι → LogPlace := fun _ => .outside
  tlsBuffers : ι → Text
  caches : ι → TimestampCache := fun _ => {}
  installed : List Text
  lines : ι → List Line := fun _ => []

/-- With `throws`, the rendering of the token or the `write` of the sink ends
in an exception. -/
inductive ThreadLabel (ι : Type) where
  | logEnter (thread : ι) (record : LogRecord)
  | formatLock (thread : ι)
  | formatToken (thread : ι) (throws : Option Nat)
  | formatUnlock (thread : ι)
  | sinkWrite (thread : ι) (throws : Bool)
  | logReturn (thread : ι)
  | patternCompile (thread : ι) (pattern : Text)
  | patternLock (thread : ι)
  | patternAssign (thread : ι)
  | tokensAssign (thread : ι)
  | flushEnter (thread : ι)
  | sinkFlush (thread : ι)
  | flushReturn (thread : ι)
  deriving DecidableEq, Repr

namespace LogThreads

variable {ι : Type} [DecidableEq ι]

def place (state : LogThreads ι) (thread : ι) (next : LogPlace) :
    LogThreads ι :=
  { state with places := Function.update state.places thread next }

/-- `log` returns or is left by an exception. -/
def endCall (state : LogThreads ι) (thread : ι) (line : Line) :
    LogThreads ι :=
  { state.place thread .outside with
    lines := Function.update state.lines thread
      (state.lines thread ++ [line]) }

/-- `tls_buffer.clear()`. -/
def logEnter (state : LogThreads ι) (thread : ι) (record : LogRecord) :
    Option (LogThreads ι) :=
  match state.places thread with
  | .outside =>
      some { state.place thread
          (.entering record state.installed.length) with
        tlsBuffers := Function.update state.tlsBuffers thread [] }
  | _ => none

/-- `format` takes the mutex shared. -/
def formatLock (state : LogThreads ι) (thread : ι) :
    Option (LogThreads ι) :=
  match state.places thread, state.formatter.lockShared thread with
  | .entering record since, some formatter =>
      let line : Line :=
        { record := record
          since := since
          version := state.installed.length - 1
          pattern := state.formatter.value.mPattern }
      some { state.place thread (.formatting line 0) with
        formatter := formatter }
  | _, _ => none

/-- One iteration of `format`.  An exception gives the mutex back. -/
def formatToken (platform : Platform) (state : LogThreads ι) (thread : ι)
    (throws : Option Nat) : Option (LogThreads ι) :=
  match state.places thread with
  | .formatting line next =>
      match state.formatter.value.mTokens[next]? with
      | some token =>
          match appendToken platform throws (state.caches thread)
            (state.tlsBuffers thread) token line.record with
          | (some buffer, cache) =>
              some { state.place thread (.formatting line (next + 1)) with
                tlsBuffers := Function.update state.tlsBuffers thread buffer
                caches := Function.update state.caches thread cache }
          | (none, cache) =>
              some { state.endCall thread line with
                formatter := state.formatter.unlockShared thread
                caches := Function.update state.caches thread cache }
      | none => none
  | _ => none

/-- The newline, and `format` returns. -/
def formatUnlock (state : LogThreads ι) (thread : ι) :
    Option (LogThreads ι) :=
  match state.places thread with
  | .formatting line next =>
      match state.formatter.value.mTokens[next]? with
      | some _ => none
      | none =>
          some { state.place thread (.writing line) with
            formatter := state.formatter.unlockShared thread
            tlsBuffers := Function.update state.tlsBuffers thread
              (state.tlsBuffers thread ++ ['\n']) }
  | _ => none

/-- One iteration of `SinkManager::write`. -/
def sinkWrite (state : LogThreads ι) (thread : ι) (throws : Bool) :
    Option (LogThreads ι) :=
  match state.places thread with
  | .writing line =>
      match state.sinks[line.reached]? with
      | some sink =>
          if throws then some (state.endCall thread line)
          else
            some { state.place thread
                (.writing { line with reached := line.reached + 1 }) with
              sinks := state.sinks.set line.reached
                (sink ++ [(thread, .write (state.tlsBuffers thread))]) }
      | none => none
  | _ => none

def logReturn (state : LogThreads ι) (thread : ι) : Option (LogThreads ι) :=
  match state.places thread with
  | .writing line =>
      if state.sinks.length ≤ line.reached then
        some (state.endCall thread line)
      else none
  | _ => none

/-- `set_pattern` compiles the pattern before it takes the mutex. -/
def patternCompile (state : LogThreads ι) (thread : ι) (pattern : Text) :
    Option (LogThreads ι) :=
  match state.places thread with
  | .outside =>
      some (state.place thread (.compiled pattern (compilePattern pattern)))
  | _ => none

def patternLock (state : LogThreads ι) (thread : ι) :
    Option (LogThreads ι) :=
  match state.places thread, state.formatter.lock thread with
  | .compiled pattern tokens, some formatter =>
      some { state.place thread (.locked pattern tokens) with
        formatter := formatter }
  | _, _ => none

def patternAssign (state : LogThreads ι) (thread : ι) :
    Option (LogThreads ι) :=
  match state.places thread with
  | .locked pattern tokens =>
      some { state.place thread (.assigned tokens) with
        formatter := state.formatter.assign
          { state.formatter.value with mPattern := pattern } }
  | _ => none

/-- The second assignment, and `set_pattern` returns. -/
def tokensAssign (state : LogThreads ι) (thread : ι) :
    Option (LogThreads ι) :=
  match state.places thread with
  | .assigned tokens =>
      some { state.place thread .outside with
        formatter := (state.formatter.assign
          { state.formatter.value with mTokens := tokens }).unlock
        installed := state.installed ++ [state.formatter.value.mPattern] }
  | _ => none

def flushEnter (state : LogThreads ι) (thread : ι) : Option (LogThreads ι) :=
  match state.places thread with
  | .outside => some (state.place thread (.flushing 0))
  | _ => none

def sinkFlush (state : LogThreads ι) (thread : ι) : Option (LogThreads ι) :=
  match state.places thread with
  | .flushing next =>
      match state.sinks[next]? with
      | some sink =>
          some { state.place thread (.flushing (next + 1)) with
            sinks := state.sinks.set next (sink ++ [(thread, .flush)]) }
      | none => none
  | _ => none

def flushReturn (state : LogThreads ι) (thread : ι) :
    Option (LogThreads ι) :=
  match state.places thread with
  | .flushing next =>
      if state.sinks.length ≤ next then some (state.place thread .outside)
      else none
  | _ => none

def step (platform : Platform) (state : LogThreads ι) :
    ThreadLabel ι → Option (LogThreads ι)
  | .logEnter thread record => state.logEnter thread record
  | .formatLock thread => state.formatLock thread
  | .formatToken thread throws => state.formatToken platform thread throws
  | .formatUnlock thread => state.formatUnlock thread
  | .sinkWrite thread throws => state.sinkWrite thread throws
  | .logReturn thread => state.logReturn thread
  | .patternCompile thread pattern => state.patternCompile thread pattern
  | .patternLock thread => state.patternLock thread
  | .patternAssign thread => state.patternAssign thread
  | .tokensAssign thread => state.tokensAssign thread
  | .flushEnter thread => state.flushEnter thread
  | .sinkFlush thread => state.sinkFlush thread
  | .flushReturn thread => state.flushReturn thread

/-- `Formatter::pattern`, which waits while the mutex is held
exclusively. -/
def pattern (state : LogThreads ι) : Option Text :=
  match state.formatter.writer with
  | none => some state.formatter.value.mPattern
  | some _ => none

end LogThreads

/-- A formatter with this pattern and so many sinks. -/
def logThreadsMachine {ι : Type} [DecidableEq ι] (platform : Platform)
    (pattern : Text) (count : Nat) (tlsBuffers : ι → Text) :
    Machine (LogThreads ι) (ThreadLabel ι) where
  start :=
    { formatter := { value := Formatter.make pattern }
      sinks := List.replicate count []
      tlsBuffers := tlsBuffers
      installed := [pattern] }
  step := LogThreads.step platform

/-- What each step can do, with the guard it was taken under. -/
inductive LogThreadsStep {ι : Type} [DecidableEq ι] (platform : Platform)
    (before : LogThreads ι) : ThreadLabel ι → LogThreads ι → Prop where
  | logEnter {thread : ι} {record : LogRecord}
      (outside : before.places thread = .outside) :
      LogThreadsStep platform before (.logEnter thread record)
        { before.place thread
            (.entering record before.installed.length) with
          tlsBuffers := Function.update before.tlsBuffers thread [] }
  | formatLock {thread : ι} {record : LogRecord} {since : Nat}
      {formatter : Guarded ι Formatter}
      (entering : before.places thread = .entering record since)
      (taken : before.formatter.lockShared thread = some formatter) :
      LogThreadsStep platform before (.formatLock thread)
        { before.place thread
            (.formatting
              { record := record
                since := since
                version := before.installed.length - 1
                pattern := before.formatter.value.mPattern } 0) with
          formatter := formatter }
  | formatToken {thread : ι} {throws : Option Nat} {line : Line}
      {next : Nat} {token : Token} {buffer : Text} {cache : TimestampCache}
      (formatting : before.places thread = .formatting line next)
      (isNext : before.formatter.value.mTokens[next]? = some token)
      (appended : appendToken platform throws (before.caches thread)
        (before.tlsBuffers thread) token line.record =
          (some buffer, cache)) :
      LogThreadsStep platform before (.formatToken thread throws)
        { before.place thread (.formatting line (next + 1)) with
          tlsBuffers := Function.update before.tlsBuffers thread buffer
          caches := Function.update before.caches thread cache }
  | formatThrows {thread : ι} {throws : Option Nat} {line : Line}
      {next : Nat} {token : Token} {cache : TimestampCache}
      (formatting : before.places thread = .formatting line next)
      (isNext : before.formatter.value.mTokens[next]? = some token)
      (threw : appendToken platform throws (before.caches thread)
        (before.tlsBuffers thread) token line.record = (none, cache)) :
      LogThreadsStep platform before (.formatToken thread throws)
        { before.endCall thread line with
          formatter := before.formatter.unlockShared thread
          caches := Function.update before.caches thread cache }
  | formatUnlock {thread : ι} {line : Line} {next : Nat}
      (formatting : before.places thread = .formatting line next)
      (isDone : before.formatter.value.mTokens[next]? = none) :
      LogThreadsStep platform before (.formatUnlock thread)
        { before.place thread (.writing line) with
          formatter := before.formatter.unlockShared thread
          tlsBuffers := Function.update before.tlsBuffers thread
            (before.tlsBuffers thread ++ ['\n']) }
  | sinkWrite {thread : ι} {line : Line} {sink : List (ι × SinkEvent)}
      (writing : before.places thread = .writing line)
      (isNext : before.sinks[line.reached]? = some sink) :
      LogThreadsStep platform before (.sinkWrite thread false)
        { before.place thread
            (.writing { line with reached := line.reached + 1 }) with
          sinks := before.sinks.set line.reached
            (sink ++ [(thread, .write (before.tlsBuffers thread))]) }
  | sinkThrows {thread : ι} {line : Line} {sink : List (ι × SinkEvent)}
      (writing : before.places thread = .writing line)
      (isNext : before.sinks[line.reached]? = some sink) :
      LogThreadsStep platform before (.sinkWrite thread true)
        (before.endCall thread line)
  | logReturn {thread : ι} {line : Line}
      (writing : before.places thread = .writing line)
      (isDone : before.sinks.length ≤ line.reached) :
      LogThreadsStep platform before (.logReturn thread)
        (before.endCall thread line)
  | patternCompile {thread : ι} {pattern : Text}
      (outside : before.places thread = .outside) :
      LogThreadsStep platform before (.patternCompile thread pattern)
        (before.place thread (.compiled pattern (compilePattern pattern)))
  | patternLock {thread : ι} {pattern : Text} {tokens : List Token}
      {formatter : Guarded ι Formatter}
      (compiled : before.places thread = .compiled pattern tokens)
      (taken : before.formatter.lock thread = some formatter) :
      LogThreadsStep platform before (.patternLock thread)
        { before.place thread (.locked pattern tokens) with
          formatter := formatter }
  | patternAssign {thread : ι} {pattern : Text} {tokens : List Token}
      (locked : before.places thread = .locked pattern tokens) :
      LogThreadsStep platform before (.patternAssign thread)
        { before.place thread (.assigned tokens) with
          formatter := before.formatter.assign
            { before.formatter.value with mPattern := pattern } }
  | tokensAssign {thread : ι} {tokens : List Token}
      (assigned : before.places thread = .assigned tokens) :
      LogThreadsStep platform before (.tokensAssign thread)
        { before.place thread .outside with
          formatter := (before.formatter.assign
            { before.formatter.value with mTokens := tokens }).unlock
          installed :=
            before.installed ++ [before.formatter.value.mPattern] }
  | flushEnter {thread : ι} (outside : before.places thread = .outside) :
      LogThreadsStep platform before (.flushEnter thread)
        (before.place thread (.flushing 0))
  | sinkFlush {thread : ι} {next : Nat} {sink : List (ι × SinkEvent)}
      (flushing : before.places thread = .flushing next)
      (isNext : before.sinks[next]? = some sink) :
      LogThreadsStep platform before (.sinkFlush thread)
        { before.place thread (.flushing (next + 1)) with
          sinks := before.sinks.set next (sink ++ [(thread, .flush)]) }
  | flushReturn {thread : ι} {next : Nat}
      (flushing : before.places thread = .flushing next)
      (isDone : before.sinks.length ≤ next) :
      LogThreadsStep platform before (.flushReturn thread)
        (before.place thread .outside)

theorem LogThreadsStep.of_step {ι : Type} [DecidableEq ι]
    {platform : Platform} {before after : LogThreads ι}
    {label : ThreadLabel ι}
    (stepped : before.step platform label = some after) :
    LogThreadsStep platform before label after := by
  cases label with
  | formatLock thread =>
      simp only [LogThreads.step, LogThreads.formatLock] at stepped
      split at stepped
      · rename_i entering taken
        cases stepped
        exact .formatLock entering taken
      · cases stepped
  | formatToken thread throws =>
      simp only [LogThreads.step, LogThreads.formatToken] at stepped
      split at stepped
      · rename_i formatting
        split at stepped
        · rename_i isNext
          split at stepped
          · rename_i appended
            cases stepped
            exact .formatToken formatting isNext appended
          · rename_i threw
            cases stepped
            exact .formatThrows formatting isNext threw
        · cases stepped
      · cases stepped
  | formatUnlock thread =>
      simp only [LogThreads.step, LogThreads.formatUnlock] at stepped
      split at stepped
      · rename_i formatting
        split at stepped
        · cases stepped
        · rename_i isDone
          cases stepped
          exact .formatUnlock formatting isDone
      · cases stepped
  | sinkWrite thread throws =>
      simp only [LogThreads.step, LogThreads.sinkWrite] at stepped
      split at stepped
      · rename_i writing
        split at stepped
        · rename_i isNext
          cases throws with
          | true =>
              cases stepped
              exact .sinkThrows writing isNext
          | false =>
              cases stepped
              exact .sinkWrite writing isNext
        · cases stepped
      · cases stepped
  | logReturn thread =>
      simp only [LogThreads.step, LogThreads.logReturn] at stepped
      split at stepped
      · rename_i writing
        split at stepped
        · rename_i isDone
          cases stepped
          exact .logReturn writing isDone
        · cases stepped
      · cases stepped
  | patternLock thread =>
      simp only [LogThreads.step, LogThreads.patternLock] at stepped
      split at stepped
      · rename_i compiled taken
        cases stepped
        exact .patternLock compiled taken
      · cases stepped
  | sinkFlush thread =>
      simp only [LogThreads.step, LogThreads.sinkFlush] at stepped
      split at stepped
      · rename_i flushing
        split at stepped
        · rename_i isNext
          cases stepped
          exact .sinkFlush flushing isNext
        · cases stepped
      · cases stepped
  | flushReturn thread =>
      simp only [LogThreads.step, LogThreads.flushReturn] at stepped
      split at stepped
      · rename_i flushing
        split at stepped
        · rename_i isDone
          cases stepped
          exact .flushReturn flushing isDone
        · cases stepped
      · cases stepped
  | logEnter thread record =>
      simp only [LogThreads.step, LogThreads.logEnter] at stepped
      split at stepped
      · cases stepped
        exact .logEnter ‹_›
      · cases stepped
  | patternCompile thread pattern =>
      simp only [LogThreads.step, LogThreads.patternCompile] at stepped
      split at stepped
      · cases stepped
        exact .patternCompile ‹_›
      · cases stepped
  | patternAssign thread =>
      simp only [LogThreads.step, LogThreads.patternAssign] at stepped
      split at stepped
      · cases stepped
        exact .patternAssign ‹_›
      · cases stepped
  | tokensAssign thread =>
      simp only [LogThreads.step, LogThreads.tokensAssign] at stepped
      split at stepped
      · cases stepped
        exact .tokensAssign ‹_›
      · cases stepped
  | flushEnter thread =>
      simp only [LogThreads.step, LogThreads.flushEnter] at stepped
      split at stepped
      · cases stepped
        exact .flushEnter ‹_›
      · cases stepped

/-- The record of the call of `log` that is under way. -/
def LogPlace.record? : LogPlace → Option LogRecord
  | .entering record _ => some record
  | .formatting line _ | .writing line => some line.record
  | _ => none

/-- The call of `log` that is under way, once it has the mutex. -/
def LogPlace.line? : LogPlace → Option Line
  | .formatting line _ | .writing line => some line
  | _ => none

/-- The reference meaning of the pattern the call found. -/
def Line.bytes (platform : Platform) (line : Line) : Text :=
  meaning platform line.record line.pattern ++ ['\n']

namespace ThreadLabel

variable {ι : Type}

def thread : ThreadLabel ι → ι
  | .logEnter thread _ | .formatLock thread | .formatToken thread _
  | .formatUnlock thread | .sinkWrite thread _ | .logReturn thread
  | .patternCompile thread _ | .patternLock thread | .patternAssign thread
  | .tokensAssign thread | .flushEnter thread | .sinkFlush thread
  | .flushReturn thread => thread

def logged [DecidableEq ι] (thread : ι) : ThreadLabel ι → Option LogRecord
  | .logEnter caller record => if caller = thread then some record else none
  | _ => none

/-- Nothing throws. -/
def calm : ThreadLabel ι → Bool
  | .formatToken _ throws => throws = none
  | .sinkWrite _ throws => !throws
  | _ => true

/-- The thread is inside a call already. -/
def goesOn : ThreadLabel ι → Bool
  | .logEnter _ _ | .patternCompile _ _ | .flushEnter _ => false
  | _ => true

end ThreadLabel

section Threads

variable {ι : Type} [DecidableEq ι]

/-- The records a thread has called `log` with. -/
def recordsOf (thread : ι) (labels : List (ThreadLabel ι)) :
    List LogRecord :=
  labels.filterMap (ThreadLabel.logged thread)

/-- What a sink was given by one thread. -/
def receivedFrom (thread : ι) (sink : List (ι × SinkEvent)) : List Text :=
  sink.filterMap fun (caller, event) =>
    if caller = thread then event.buffer? else none

namespace LogThreads

/-- The calls of `log` of a thread that have had the mutex. -/
def calls (state : LogThreads ι) (thread : ι) : List Line :=
  state.lines thread ++ (state.places thread).line?.toList

/-- No rendering of a timestamp throws. -/
def timestampsWhole (state : LogThreads ι) : ThreadLabel ι → Bool
  | .formatToken thread (some _) =>
      match state.places thread with
      | .formatting _ next =>
          match state.formatter.value.mTokens[next]? with
          | some token => token.kind ≠ .timestamp
          | none => true
      | _ => true
  | _ => true

end LogThreads

/-- What a thread relies on while it is at a place: the value it holds and
what its scratch buffer has come to. -/
def LogPlace.Sound (platform : Platform) (formatter : Guarded ι Formatter)
    (installed : List Text) (thread : ι) (buffer : Text) : LogPlace → Prop
  | .entering _ since => buffer = [] ∧ since ≤ installed.length
  | .formatting line next =>
      (thread, Formatter.make line.pattern) ∈ formatter.readers ∧
        line.reached = 0 ∧
        buffer = ((compilePattern line.pattern).take next).flatMap
          fun token => Formatter.renderToken platform token line.record
  | .writing line => buffer = line.bytes platform
  | .compiled pattern tokens => tokens = compilePattern pattern
  | .locked pattern tokens =>
      formatter.writer = some thread ∧ tokens = compilePattern pattern
  | .assigned tokens =>
      formatter.writer = some thread ∧
        tokens = compilePattern formatter.value.mPattern
  | .outside | .flushing _ => True

/-- Outside `set_pattern` the tokens are those of the pattern, which is the
one installed last. -/
def Current (installed : List Text) (formatter : Formatter) : Prop :=
  formatter = Formatter.make formatter.mPattern ∧
    installed.getLast? = some formatter.mPattern

structure LogThreads.Guarding (platform : Platform) (state : LogThreads ι) :
    Prop where
  sound : state.formatter.Sound (Current state.installed)
  places : ∀ thread, (state.places thread).Sound platform state.formatter
    state.installed thread (state.tlsBuffers thread)
  caches : ∀ thread, (state.caches thread).Sound platform

variable {platform : Platform} {before after state : LogThreads ι}
  {label : ThreadLabel ι} {thread other : ι}

omit [DecidableEq ι] in
theorem LogPlace.Sound.transfer {place : LogPlace}
    {formatter next : Guarded ι Formatter} {installed later : List Text}
    {buffer : Text}
    (sound : place.Sound platform formatter installed thread buffer)
    (same : Guarded.SameFor thread formatter next)
    (grown : installed.length ≤ later.length) :
    place.Sound platform next later thread buffer := by
  cases place with
  | entering record since => exact ⟨sound.1, sound.2.trans grown⟩
  | formatting line position =>
      exact ⟨(same.readers _).mpr sound.1, sound.2⟩
  | locked pattern tokens => exact ⟨same.writer.mpr sound.1, sound.2⟩
  | assigned tokens =>
      refine ⟨same.writer.mpr sound.1, ?_⟩
      rw [same.value sound.1]
      exact sound.2
  | outside | writing | compiled | flushing => exact sound

namespace LogThreadsStep

/-- A step changes what belongs to its own thread. -/
theorem others (stepped : LogThreadsStep platform before label after)
    (different : other ≠ label.thread) :
    after.places other = before.places other ∧
      after.tlsBuffers other = before.tlsBuffers other ∧
      after.caches other = before.caches other ∧
      after.lines other = before.lines other := by
  cases stepped <;>
    · dsimp only [ThreadLabel.thread] at different
      simp [LogThreads.place, LogThreads.endCall, different]

theorem grown (stepped : LogThreadsStep platform before label after) :
    before.installed <+: after.installed := by
  cases stepped with
  | tokensAssign assigned => exact List.prefix_append _ _
  | _ => exact List.prefix_refl _

theorem sameFor (stepped : LogThreadsStep platform before label after)
    (guarding : before.Guarding platform)
    (different : other ≠ label.thread) :
    Guarded.SameFor other before.formatter after.formatter := by
  cases stepped with
  | formatLock entering taken => exact .lockShared different taken
  | formatThrows | formatUnlock => exact .unlockShared different
  | patternLock compiled taken => exact .lock different taken
  | @patternAssign thread _ _ locked =>
      have here := guarding.places thread
      rw [locked] at here
      exact .assign different here.1 _
  | @tokensAssign thread _ assigned =>
      have here := guarding.places thread
      rw [assigned] at here
      exact .trans (.assign different here.1 _) (.unlock different here.1)
  | _ => exact .refl _

end LogThreadsStep

/-- A token that is rendered to its end adds what it stands for; one that is
not leaves the cache as sound as it was. -/
theorem appendToken_outcome {throws : Option Nat} {cache later : TimestampCache}
    {buffer : Text} {token : Token} {record : LogRecord}
    {outcome : Option Text} (sound : cache.Sound platform)
    (whole : throws ≠ none → token.kind ≠ .timestamp)
    (appended : appendToken platform throws cache buffer token record =
      (outcome, later)) :
    later.Sound platform ∧ ∀ text ∈ outcome,
      text = buffer ++ Formatter.renderToken platform token record := by
  cases throws with
  | none =>
      obtain ⟨cacheAfter, spec, soundAfter⟩ :=
        appendToken_spec sound buffer token record
      obtain ⟨rfl, rfl⟩ := Prod.mk.inj (spec.symm.trans appended)
      exact ⟨soundAfter, fun text member => (Option.some.inj member).symm⟩
  | some length =>
      have notTimestamp := whole (by simp)
      have threw :
          appendToken platform (some length) cache buffer token record =
            (none, cache) := by
        unfold appendToken
        split <;> simp_all
      obtain ⟨rfl, rfl⟩ := Prod.mk.inj (threw.symm.trans appended)
      exact ⟨sound, fun text member => by cases member⟩

theorem appendToken_returns (platform : Platform) (cache : TimestampCache)
    (buffer : Text) (token : Token) (record : LogRecord) :
    ∃ text later, appendToken platform none cache buffer token record =
      (some text, later) := by
  unfold appendToken
  split
  · by_cases hits : cache.Hits platform record
    · exact ⟨_, _, appendTimestamp_hit hits none buffer⟩
    · exact ⟨_, _, appendTimestamp_miss hits none buffer⟩
  · contradiction
  · exact ⟨_, _, rfl⟩

namespace LogThreads.Guarding

omit [DecidableEq ι] in
/-- What the thread in the loop of `format` reads is what it has found. -/
theorem reading (guarding : before.Guarding platform) {line : Line}
    {next : Nat} (formatting : before.places thread = .formatting line next) :
    before.formatter.value = Formatter.make line.pattern ∧
      before.formatter.writer = none := by
  have here := guarding.places thread
  rw [formatting] at here
  obtain ⟨same, free, _⟩ := guarding.sound.held here.1
  exact ⟨same.symm, free⟩

omit [DecidableEq ι] in
theorem whole {line : Line} {next : Nat} {throws : Option Nat}
    {token : Token} (formatting : before.places thread = .formatting line next)
    (isNext : before.formatter.value.mTokens[next]? = some token)
    (admitted : before.timestampsWhole (.formatToken thread throws) = true) :
    throws ≠ none → token.kind ≠ .timestamp := by
  intro throwing
  cases throws with
  | none => exact absurd rfl throwing
  | some length =>
      simpa [timestampsWhole, formatting, isNext] using admitted

theorem cache (guarding : before.Guarding platform)
    (stepped : LogThreadsStep platform before label after)
    (admitted : before.timestampsWhole label = true) (thread : ι) :
    (after.caches thread).Sound platform := by
  by_cases same : thread = label.thread
  · subst thread
    have sound := guarding.caches label.thread
    cases stepped with
    | formatToken formatting isNext appended =>
        simpa [place, ThreadLabel.thread] using
          (appendToken_outcome sound
            (whole formatting isNext admitted) appended).1
    | formatThrows formatting isNext threw =>
        simpa [endCall, place, ThreadLabel.thread] using
          (appendToken_outcome sound
            (whole formatting isNext admitted) threw).1
    | _ => exact sound
  · rw [(stepped.others same).2.2.1]
    exact guarding.caches thread

theorem lock (guarding : before.Guarding platform)
    (stepped : LogThreadsStep platform before label after) :
    after.formatter.Sound (Current after.installed) := by
  have sound := guarding.sound
  cases stepped with
  | formatLock entering taken => exact sound.lockShared taken
  | formatThrows | formatUnlock => exact sound.unlockShared
  | patternLock compiled taken => exact sound.lock taken
  | @patternAssign thread _ _ locked =>
      have here := guarding.places thread
      rw [locked] at here
      exact sound.assign here.1 _
  | @tokensAssign thread tokens assigned =>
      have here := guarding.places thread
      rw [assigned] at here
      obtain ⟨writing, rfl⟩ := here
      exact (sound.assign writing _).unlock ⟨rfl, by simp [Guarded.assign]⟩
  | _ => exact sound

/-- The place a thread has moved to. -/
theorem here (guarding : before.Guarding platform)
    (stepped : LogThreadsStep platform before label after)
    (admitted : before.timestampsWhole label = true) :
    (after.places label.thread).Sound platform after.formatter
      after.installed label.thread (after.tlsBuffers label.thread) := by
  have places := guarding.places label.thread
  cases stepped with
  | logEnter outside =>
      simp [ThreadLabel.thread, place, LogPlace.Sound]
  | formatLock entering taken =>
      dsimp only [ThreadLabel.thread] at places ⊢
      rw [entering] at places
      obtain ⟨free, rfl⟩ := Guarded.lockShared_eq_some taken
      obtain ⟨compiled, _⟩ := guarding.sound.consistent free
      simp [place, LogPlace.Sound, places.1, ← compiled]
  | @formatToken thread throws line next token buffer cache formatting isNext
      appended =>
      dsimp only [ThreadLabel.thread] at places ⊢
      rw [formatting] at places
      obtain ⟨holds, unreached, soFar⟩ := places
      have same := (guarding.reading formatting).1
      have rendered := (appendToken_outcome (guarding.caches thread)
        (whole formatting isNext admitted) appended).2 buffer rfl
      have isNextCompiled :
          (compilePattern line.pattern)[next]? = some token := by
        rw [same] at isNext
        exact isNext
      simp [place, LogPlace.Sound, holds, unreached, rendered, soFar,
        List.take_add_one, isNextCompiled]
  | formatThrows | sinkThrows | logReturn =>
      simp [ThreadLabel.thread, endCall, place, LogPlace.Sound]
  | @formatUnlock thread line next formatting isDone =>
      dsimp only [ThreadLabel.thread] at places ⊢
      rw [formatting] at places
      obtain ⟨_, _, soFar⟩ := places
      have all : (compilePattern line.pattern).take next =
          compilePattern line.pattern := by
        rw [(guarding.reading formatting).1] at isDone
        exact List.take_of_length_le (List.getElem?_eq_none_iff.mp isDone)
      rw [all, compilePattern_meaning] at soFar
      simp [place, LogPlace.Sound, Line.bytes, soFar]
  | sinkWrite writing isNext =>
      dsimp only [ThreadLabel.thread] at places ⊢
      rw [writing] at places
      simpa [place, LogPlace.Sound, Line.bytes] using places
  | patternCompile outside =>
      simp [ThreadLabel.thread, place, LogPlace.Sound]
  | patternLock compiled taken =>
      dsimp only [ThreadLabel.thread] at places ⊢
      rw [compiled] at places
      obtain ⟨_, _, rfl⟩ := Guarded.lock_eq_some taken
      simpa [place, LogPlace.Sound] using places
  | patternAssign locked =>
      dsimp only [ThreadLabel.thread] at places ⊢
      rw [locked] at places
      simpa [place, LogPlace.Sound, Guarded.assign] using places
  | tokensAssign assigned =>
      simp [ThreadLabel.thread, place, LogPlace.Sound]
  | flushEnter | sinkFlush | flushReturn =>
      simp [ThreadLabel.thread, place, LogPlace.Sound]

theorem step (guarding : before.Guarding platform)
    (stepped : LogThreadsStep platform before label after)
    (admitted : before.timestampsWhole label = true) :
    after.Guarding platform := by
  refine ⟨guarding.lock stepped, ?_, guarding.cache stepped admitted⟩
  intro thread
  by_cases same : thread = label.thread
  · subst thread
    exact guarding.here stepped admitted
  · obtain ⟨placeEq, bufferEq, _⟩ := stepped.others same
    rw [placeEq, bufferEq]
    exact (guarding.places thread).transfer (stepped.sameFor guarding same)
      stepped.grown.length_le

theorem start (pattern : Text) (count : Nat) (tlsBuffers : ι → Text) :
    (logThreadsMachine platform pattern count
      tlsBuffers).start.Guarding platform where
  sound := .make ⟨rfl, rfl⟩
  places _ := trivial
  caches _ := .empty

end LogThreads.Guarding

namespace LogThreads

/-- Each call of a thread is known with a pattern that was in force no earlier
than when the call began. -/
def Stamped (state : LogThreads ι) : Prop :=
  ∀ thread, ∀ line ∈ state.calls thread, line.since ≤ line.version + 1 ∧
    state.installed[line.version]? = some line.pattern

/-- What each sink has from each thread: the lines that got as far. -/
def Delivered (platform : Platform) (state : LogThreads ι) : Prop :=
  ∀ position sink, state.sinks[position]? = some sink → ∀ thread,
    receivedFrom thread sink =
      ((state.calls thread).filter (position < ·.reached)).map
        (Line.bytes platform)

/-- Nothing a thread called `log` with is forgotten. -/
def Recorded (labels : List (ThreadLabel ι)) (state : LogThreads ι) : Prop :=
  ∀ thread, (state.lines thread).map Line.record ++
    (state.places thread).record?.toList = recordsOf thread labels

end LogThreads

theorem receivedFrom_snoc (sink : List (ι × SinkEvent)) (event : SinkEvent) :
    receivedFrom other (sink ++ [(thread, event)]) =
      receivedFrom other sink ++
        if thread = other then event.buffer?.toList else [] := by
  by_cases same : thread = other
  · cases given : event.buffer? <;> simp [receivedFrom, same, given]
  · simp [receivedFrom, same]

theorem recordsOf_snoc (labels : List (ThreadLabel ι))
    (label : ThreadLabel ι) :
    recordsOf thread (labels ++ [label]) =
      recordsOf thread labels ++ (label.logged thread).toList := by
  cases given : label.logged thread <;> simp [recordsOf, given]

namespace LogThreads

theorem calls_others (stepped : LogThreadsStep platform before label after)
    (different : other ≠ label.thread) :
    after.calls other = before.calls other := by
  obtain ⟨placeEq, _, _, linesEq⟩ := stepped.others different
  rw [calls, calls, placeEq, linesEq]

theorem Stamped.step (stamped : before.Stamped)
    (guarding : before.Guarding platform)
    (stepped : LogThreadsStep platform before label after) :
    after.Stamped := by
  have still (line : Line)
      (earlier : line.since ≤ line.version + 1 ∧
        before.installed[line.version]? = some line.pattern) :
      line.since ≤ line.version + 1 ∧
        after.installed[line.version]? = some line.pattern := by
    obtain ⟨later, grown⟩ := stepped.grown
    refine ⟨earlier.1, ?_⟩
    obtain ⟨within, _⟩ := List.getElem?_eq_some_iff.mp earlier.2
    rw [← grown, List.getElem?_append_left within]
    exact earlier.2
  intro thread line member
  by_cases same : thread = label.thread
  · subst thread
    have stampedHere := stamped label.thread
    cases stepped with
    | @formatLock thread record since formatter entering taken =>
        dsimp only [ThreadLabel.thread] at stampedHere member
        have earlier : before.calls thread = before.lines thread := by
          simp [calls, entering, LogPlace.line?]
        have here := guarding.places thread
        rw [entering] at here
        obtain ⟨free, rfl⟩ := Guarded.lockShared_eq_some taken
        obtain ⟨_, newest⟩ := guarding.sound.consistent free
        rw [List.getLast?_eq_getElem?] at newest
        simp only [calls, place, Function.update_self, LogPlace.line?,
          Option.toList_some, List.mem_append, List.mem_singleton] at member
        rcases member with ended | rfl
        · exact stampedHere line (earlier ▸ ended)
        · have sinceLe : since ≤ before.installed.length := here.2
          exact ⟨by dsimp only; omega, newest⟩
    | @sinkWrite thread current sink writing isNext =>
        dsimp only [ThreadLabel.thread] at stampedHere member
        have earlier : before.calls thread =
            before.lines thread ++ [current] := by
          simp [calls, writing, LogPlace.line?]
        rw [earlier] at stampedHere
        simp only [calls, place, Function.update_self, LogPlace.line?,
          Option.toList_some, List.mem_append, List.mem_singleton] at member
        rcases member with ended | rfl
        · exact stampedHere line (List.mem_append_left _ ended)
        · exact stampedHere current (by simp)
    | _ =>
        apply still
        apply stampedHere
        simp_all [calls, place, endCall, ThreadLabel.thread, LogPlace.line?]
  · rw [calls_others stepped same] at member
    exact still line (stamped thread line member)

theorem Recorded.step {labels : List (ThreadLabel ι)}
    (recorded : before.Recorded labels)
    (stepped : LogThreadsStep platform before label after) :
    after.Recorded (labels ++ [label]) := by
  intro thread
  rw [recordsOf_snoc, ← recorded thread]
  by_cases same : thread = label.thread
  · subst thread
    cases stepped <;>
      simp_all [place, endCall, ThreadLabel.thread, ThreadLabel.logged,
        LogPlace.record?]
  · obtain ⟨placeEq, _, _, linesEq⟩ := stepped.others same
    have silent : label.logged thread = none := by
      cases label <;>
        simp_all [ThreadLabel.logged, ThreadLabel.thread, eq_comm]
    simp [placeEq, linesEq, silent]

theorem Delivered.sinkWrite (delivered : before.Delivered platform)
    (guarding : before.Guarding platform) {line : Line}
    {sink : List (ι × SinkEvent)}
    (writing : before.places thread = .writing line)
    (isNext : before.sinks[line.reached]? = some sink) :
    Delivered platform
      { before.place thread
          (.writing { line with reached := line.reached + 1 }) with
        sinks := before.sinks.set line.reached
          (sink ++ [(thread, .write (before.tlsBuffers thread))]) } := by
  have bytes : before.tlsBuffers thread = line.bytes platform := by
    have here := guarding.places thread
    rw [writing] at here
    exact here
  intro position current isCurrent caller
  simp only [List.getElem?_set] at isCurrent
  by_cases written : line.reached = position
  · subst position
    obtain ⟨within, _⟩ := List.getElem?_eq_some_iff.mp isNext
    simp only [if_true, within, Option.some.injEq] at isCurrent
    subst current
    rw [receivedFrom_snoc, delivered line.reached sink isNext caller]
    by_cases same : thread = caller
    · subst caller
      simp [calls, place, writing, LogPlace.line?, SinkEvent.buffer?, bytes,
        Line.bytes]
    · simp [calls, place, same, Ne.symm same]
  · rw [if_neg written] at isCurrent
    rw [delivered position current isCurrent caller]
    by_cases same : thread = caller
    · subst caller
      have unmoved : position < line.reached + 1 ↔ position < line.reached := by
        omega
      by_cases got : position < line.reached <;>
        simp [calls, place, writing, LogPlace.line?, unmoved, got, Line.bytes]
    · simp [calls, place, Ne.symm same]

theorem Delivered.step (delivered : before.Delivered platform)
    (guarding : before.Guarding platform)
    (stepped : LogThreadsStep platform before label after) :
    after.Delivered platform := by
  cases stepped with
  | sinkWrite writing isNext => exact delivered.sinkWrite guarding writing isNext
  | @sinkFlush thread next sink flushing isNext =>
      intro position current isCurrent caller
      have callsSame : (before.place thread (.flushing (next + 1))).calls
          caller = before.calls caller := by
        by_cases same : caller = thread
        · subst caller
          simp [calls, place, flushing, LogPlace.line?]
        · simp [calls, place, same]
      change _ = (((before.place thread (.flushing (next + 1))).calls
        caller).filter _).map _
      rw [callsSame]
      simp only [List.getElem?_set] at isCurrent
      by_cases flushed : next = position
      · subst position
        obtain ⟨within, _⟩ := List.getElem?_eq_some_iff.mp isNext
        simp only [if_true, within, Option.some.injEq] at isCurrent
        subst current
        rw [receivedFrom_snoc]
        simpa [SinkEvent.buffer?] using delivered next sink isNext caller
      · rw [if_neg flushed] at isCurrent
        exact delivered position current isCurrent caller
  | _ =>
      intro position current isCurrent caller
      rw [delivered position current isCurrent caller]
      simp_all [calls, place, endCall, Function.update_apply]
      all_goals
        split <;> simp_all [LogPlace.line?]

/-- No call is ahead of the sinks, and those that have ended normally have
gone through all of them. -/
structure Complete (count : Nat) (labels : List (ThreadLabel ι))
    (state : LogThreads ι) : Prop where
  length_eq : state.sinks.length = count
  within : ∀ thread, ∀ line ∈ (state.places thread).line?,
    line.reached ≤ count
  ended : (∀ label ∈ labels, label.calm = true) →
    ∀ thread, ∀ line ∈ state.lines thread, line.reached = count

theorem Complete.step {count : Nat} {labels : List (ThreadLabel ι)}
    (complete : before.Complete count labels)
    (stepped : LogThreadsStep platform before label after) :
    after.Complete count (labels ++ [label]) := by
  obtain ⟨lengthEq, within, ended⟩ := complete
  refine ⟨?_, ?_, ?_⟩
  · cases stepped <;> simp [place, endCall, lengthEq]
  · intro thread line member
    by_cases same : thread = label.thread
    · subst thread
      have withinHere := within label.thread
      cases stepped with
      | sinkWrite writing isNext =>
          obtain ⟨room, _⟩ := List.getElem?_eq_some_iff.mp isNext
          have isLine := Option.some.inj
            (by simpa [place, ThreadLabel.thread, LogPlace.line?] using member)
          subst line
          dsimp only
          omega
      | _ =>
          simp_all [place, endCall, ThreadLabel.thread, LogPlace.line?]
          try subst line; exact Nat.zero_le _
    · rw [(stepped.others same).1] at member
      exact within thread line member
  · intro calm thread line member
    obtain ⟨calmBefore, calmHere⟩ := List.forall_mem_append.mp calm
    have calmLabel := calmHere label (List.mem_singleton_self _)
    by_cases same : thread = label.thread
    · subst thread
      have endedHere := ended calmBefore label.thread
      have withinHere := within label.thread
      cases stepped with
      | logReturn writing isDone =>
          simp only [endCall, ThreadLabel.thread, Function.update_self,
            List.mem_append, List.mem_singleton] at member
          rcases member with earlier | rfl
          · exact endedHere line earlier
          · have atMost := withinHere line
              (by simp [ThreadLabel.thread, writing, LogPlace.line?])
            omega
      | formatThrows formatting isNext threw =>
          obtain rfl : _ = none := by
            simpa [ThreadLabel.calm] using calmLabel
          obtain ⟨text, cache, returned⟩ := appendToken_returns platform
            (before.caches _) (before.tlsBuffers _) _ _
          rw [returned] at threw
          cases threw
      | sinkThrows => cases calmLabel
      | _ => exact endedHere line member
    · rw [(stepped.others same).2.2.2] at member
      exact ended calmBefore thread line member

/-- The invariant of all threads together. -/
structure Whole (platform : Platform) (count : Nat)
    (labels : List (ThreadLabel ι)) (state : LogThreads ι) : Prop where
  guarding : state.Guarding platform
  stamped : state.Stamped
  delivered : state.Delivered platform
  recorded : state.Recorded labels
  complete : state.Complete count labels

theorem Whole.step {count : Nat} {labels : List (ThreadLabel ι)}
    (whole : before.Whole platform count labels)
    (stepped : LogThreadsStep platform before label after)
    (admitted : before.timestampsWhole label = true) :
    after.Whole platform count (labels ++ [label]) :=
  ⟨whole.guarding.step stepped admitted,
    whole.stamped.step whole.guarding stepped,
    whole.delivered.step whole.guarding stepped,
    whole.recorded.step stepped, whole.complete.step stepped⟩

theorem Whole.start (pattern : Text) (count : Nat) (tlsBuffers : ι → Text) :
    (logThreadsMachine platform pattern count tlsBuffers).start.Whole platform
      count [] where
  guarding := .start pattern count tlsBuffers
  stamped thread line member := by
    simp [logThreadsMachine, calls, LogPlace.line?] at member
  delivered position sink isSink thread := by
    obtain rfl : [] = sink := by
      simp only [logThreadsMachine, List.getElem?_replicate] at isSink
      split at isSink
      · exact Option.some.inj isSink
      · cases isSink
    rfl
  recorded thread := rfl
  complete := by
    refine ⟨List.length_replicate, ?_, ?_⟩
    · simp [logThreadsMachine, LogPlace.line?]
    · simp [logThreadsMachine]

/-- Under any interleaving, the calls of a thread are known in order, each
with a pattern that was in force at some time since it began; every sink has
from the thread the lines that got as far, in order and each rendered under
that one pattern; and without exceptions all of them got through. -/
theorem lines_whole {pattern : Text} {count : Nat} {tlsBuffers : ι → Text}
    {labels : List (ThreadLabel ι)}
    (run : (logThreadsMachine platform pattern count tlsBuffers).Run
      (fun state label => state.timestampsWhole label = true)
      (logThreadsMachine platform pattern count tlsBuffers).start labels
      state) (thread : ι) :
    (state.lines thread).map Line.record ++
        (state.places thread).record?.toList = recordsOf thread labels ∧
    (∀ line ∈ state.calls thread, line.since ≤ line.version + 1 ∧
      state.installed[line.version]? = some line.pattern) ∧
    (∀ position sink, state.sinks[position]? = some sink →
      receivedFrom thread sink =
        ((state.calls thread).filter (position < ·.reached)).map
          (Line.bytes platform)) ∧
    ((∀ label ∈ labels, label.calm = true) →
      ∀ line ∈ state.lines thread, line.reached = count) := by
  have whole : state.Whole platform count labels := by
    refine run.invariant_labels ?_ (.start pattern count tlsBuffers)
    intro taken before label after stepped admitted whole
    exact whole.step (.of_step stepped) admitted
  exact ⟨whole.recorded thread, whole.stamped thread,
    fun position sink isSink => whole.delivered position sink isSink thread,
    fun calm => whole.complete.ended calm thread⟩

/-- The second thread changes the pattern while the first one is on its way
from the formatter to the sinks, the second of which throws. -/
theorem lines_whole_two_patterns :
    ∃ state, (logThreadsMachine Platform.epoch "%m".toList 2
        fun _ : Bool => []).Run
        (fun state label => state.timestampsWhole label = true)
        (logThreadsMachine Platform.epoch "%m".toList 2 fun _ => []).start
        [.logEnter false { message := ['a'] }, .formatLock false,
          .patternCompile true "<%m".toList, .formatToken false none,
          .formatUnlock false, .patternLock true, .sinkWrite false false,
          .patternAssign true, .sinkWrite false true, .tokensAssign true,
          .logEnter false { message := ['b'] }, .formatLock false,
          .formatToken false none, .formatToken false none,
          .formatUnlock false, .sinkWrite false false] state ∧
      state.sinks =
        [[(false, .write ['a', '\n']), (false, .write ['<', 'b', '\n'])],
          []] ∧
      state.calls false =
        [{ record := { message := ['a'] }, since := 1, version := 0,
           pattern := "%m".toList, reached := 1 },
          { record := { message := ['b'] }, since := 2, version := 1,
            pattern := "<%m".toList, reached := 1 }] ∧
      ∀ position sink, state.sinks[position]? = some sink →
        receivedFrom false sink =
          ((state.calls false).filter (position < ·.reached)).map
            (Line.bytes Platform.epoch) := by
  obtain ⟨state, run, sinks, calls⟩ := Machine.exists_run
    (logThreadsMachine Platform.epoch "%m".toList 2 fun _ : Bool => [])
    (fun state label => state.timestampsWhole label = true)
    (logThreadsMachine Platform.epoch "%m".toList 2 fun _ => []).start
    [.logEnter false { message := ['a'] }, .formatLock false,
      .patternCompile true "<%m".toList, .formatToken false none,
      .formatUnlock false, .patternLock true, .sinkWrite false false,
      .patternAssign true, .sinkWrite false true, .tokensAssign true,
      .logEnter false { message := ['b'] }, .formatLock false,
      .formatToken false none, .formatToken false none,
      .formatUnlock false, .sinkWrite false false]
    (fun state =>
      state.sinks =
        [[(false, .write ['a', '\n']), (false, .write ['<', 'b', '\n'])],
          []] ∧
      state.calls false =
        [{ record := { message := ['a'] }, since := 1, version := 0,
           pattern := "%m".toList, reached := 1 },
          { record := { message := ['b'] }, since := 2, version := 1,
            pattern := "<%m".toList, reached := 1 }])
    (by decide +kernel)
  obtain ⟨_, _, delivered, _⟩ := lines_whole run false
  exact ⟨state, run, sinks, calls, delivered⟩

/-- The mutex is held by threads in the middle of `format` or of
`set_pattern`. -/
structure Held (state : LogThreads ι) : Prop where
  reading : ∀ held ∈ state.formatter.readers, ∃ line next,
    state.places held.1 = .formatting line next
  writing : ∀ thread, state.formatter.writer = some thread →
    (∃ pattern tokens, state.places thread = .locked pattern tokens) ∨
      ∃ tokens, state.places thread = .assigned tokens

theorem Held.step (held : before.Held)
    (stepped : LogThreadsStep platform before label after) : after.Held := by
  obtain ⟨reading, writing⟩ := held
  constructor
  · rintro ⟨reader, found⟩ member
    by_cases same : reader = label.thread
    · subst reader
      have readingHere := fun held => reading (label.thread, held)
      cases stepped with
      | formatLock | formatToken => simp [place, ThreadLabel.thread]
      | formatThrows | formatUnlock =>
          exact absurd rfl (Guarded.mem_unlockShared.mp member).2
      | patternLock compiled taken =>
          obtain ⟨_, nobody, rfl⟩ := Guarded.lock_eq_some taken
          simp [nobody] at member
      | _ =>
          obtain ⟨line, next, formatting⟩ := readingHere found member
          simp_all [ThreadLabel.thread]
    · rw [(stepped.others same).1]
      apply reading (reader, found)
      cases stepped with
      | formatLock entering taken =>
          obtain ⟨_, rfl⟩ := Guarded.lockShared_eq_some taken
          dsimp only [ThreadLabel.thread] at same
          simpa [same] using member
      | formatThrows | formatUnlock =>
          exact (Guarded.mem_unlockShared.mp member).1
      | patternLock compiled taken =>
          obtain ⟨_, _, rfl⟩ := Guarded.lock_eq_some taken
          exact member
      | _ => exact member
  · intro writer holds
    by_cases same : writer = label.thread
    · subst writer
      cases stepped with
      | patternLock | patternAssign => simp [place, ThreadLabel.thread]
      | tokensAssign => simp [Guarded.unlock] at holds
      | formatLock entering taken =>
          obtain ⟨free, rfl⟩ := Guarded.lockShared_eq_some taken
          simp [free] at holds
      | _ =>
          rcases writing _ holds with ⟨_, _, locked⟩ | ⟨_, assigned⟩
          · simp_all [ThreadLabel.thread]
          · simp_all [ThreadLabel.thread]
    · rw [(stepped.others same).1]
      apply writing writer
      cases stepped with
      | patternLock compiled taken =>
          obtain ⟨_, _, rfl⟩ := Guarded.lock_eq_some taken
          exact absurd (Option.some.inj holds).symm same
      | tokensAssign => simp [Guarded.unlock] at holds
      | formatLock entering taken =>
          obtain ⟨_, rfl⟩ := Guarded.lockShared_eq_some taken
          exact holds
      | _ => exact holds

/-- What a thread inside a call does next. -/
def next (state : LogThreads ι) (thread : ι) : ThreadLabel ι :=
  match state.places thread with
  | .outside | .entering _ _ => .formatLock thread
  | .formatting _ next =>
      if next < state.formatter.value.mTokens.length then
        .formatToken thread none
      else .formatUnlock thread
  | .writing line =>
      if line.reached < state.sinks.length then .sinkWrite thread false
      else .logReturn thread
  | .compiled _ _ => .patternLock thread
  | .locked _ _ => .patternAssign thread
  | .assigned _ => .tokensAssign thread
  | .flushing next =>
      if next < state.sinks.length then .sinkFlush thread
      else .flushReturn thread

omit [DecidableEq ι] in
theorem goesOn_next (state : LogThreads ι) (thread : ι) :
    (state.next thread).goesOn = true := by
  unfold next
  split
  all_goals try split
  all_goals rfl

/-- Only the mutex keeps a thread waiting. -/
theorem next_enabled (platform : Platform)
    (busy : state.places thread ≠ .outside)
    (shared : ∀ record since, state.places thread = .entering record since →
      state.formatter.writer = none)
    (exclusive : ∀ pattern tokens,
      state.places thread = .compiled pattern tokens →
        state.formatter.writer = none ∧ state.formatter.readers = []) :
    (state.step platform (state.next thread)).isSome = true := by
  cases place : state.places thread with
  | outside => exact absurd place busy
  | entering record since =>
      simp [next, step, formatLock, place, Guarded.lockShared,
        shared record since place]
  | formatting line position =>
      by_cases more : position < state.formatter.value.mTokens.length
      · obtain ⟨text, cache, returned⟩ := appendToken_returns platform
          (state.caches thread) (state.tlsBuffers thread)
          state.formatter.value.mTokens[position] line.record
        simp [next, step, formatToken, place, more, returned]
      · simp [next, step, formatUnlock, place, more]
  | writing line =>
      by_cases more : line.reached < state.sinks.length
      · simp [next, step, sinkWrite, place, more]
      · simp [next, step, logReturn, place, more, Nat.le_of_not_lt more]
  | compiled pattern tokens =>
      obtain ⟨free, nobody⟩ := exclusive pattern tokens place
      simp [next, step, patternLock, place, Guarded.lock, free, nobody]
  | locked pattern tokens => simp [next, step, patternAssign, place]
  | assigned tokens => simp [next, step, tokensAssign, place]
  | flushing position =>
      by_cases more : position < state.sinks.length
      · simp [next, step, sinkFlush, place, more]
      · simp [next, step, flushReturn, place, more, Nat.le_of_not_lt more]

/-- Whatever throws, the mutex is given back in the end: while a thread is
inside a call, some thread inside a call can go on. -/
theorem someone_goes_on {pattern : Text} {count : Nat}
    {tlsBuffers : ι → Text}
    (reachable : (logThreadsMachine platform pattern count
      tlsBuffers).Reachable state)
    (busy : state.places thread ≠ .outside) :
    ∃ mover, (state.next mover).goesOn = true ∧
      (state.step platform (state.next mover)).isSome = true := by
  have preserved : (logThreadsMachine platform pattern count
      tlsBuffers).Preserves Machine.Free Held :=
    fun _ _ _ stepped _ held => held.step (.of_step stepped)
  have held : state.Held :=
    reachable.invariant preserved
      ⟨by simp [logThreadsMachine], by simp [logThreadsMachine]⟩
  suffices moves : ∃ mover,
      (state.step platform (state.next mover)).isSome = true by
    obtain ⟨mover, moves⟩ := moves
    exact ⟨mover, state.goesOn_next mover, moves⟩
  cases free : state.formatter.writer with
  | some writer =>
      refine ⟨writer, next_enabled platform ?_ ?_ ?_⟩
      all_goals
        rcases held.writing writer free with ⟨_, _, place⟩ | ⟨_, place⟩
        · simp [place]
        · simp [place]
  | none =>
      cases nobody : state.formatter.readers with
      | nil =>
          exact ⟨thread, next_enabled platform busy (fun _ _ _ => free)
            fun _ _ _ => ⟨free, nobody⟩⟩
      | cons reader rest =>
          obtain ⟨line, position, formatting⟩ :=
            held.reading reader (by simp [nobody])
          exact ⟨reader.1, next_enabled platform (by simp [formatting])
            (by simp [formatting]) (by simp [formatting])⟩

/-- One thread waits for the mutex that the other one holds. -/
theorem someone_goes_on_writer_waits :
    ∃ state, (logThreadsMachine Platform.epoch "%m".toList 1
        fun _ : Bool => []).Reachable state ∧
      (state.step Platform.epoch (state.next true)).isSome = false ∧
      ∃ mover, (state.next mover).goesOn = true ∧
        (state.step Platform.epoch (state.next mover)).isSome = true := by
  obtain ⟨state, run, busy, waits⟩ := Machine.exists_run
    (logThreadsMachine Platform.epoch "%m".toList 1 fun _ : Bool => [])
    Machine.Free
    (logThreadsMachine Platform.epoch "%m".toList 1 fun _ => []).start
    [.logEnter false {}, .formatLock false, .patternCompile true ['x']]
    (fun state => state.places true ≠ .outside ∧
      (state.step Platform.epoch (state.next true)).isSome = false)
    (by decide +kernel)
  exact ⟨state, ⟨_, run⟩, waits, someone_goes_on ⟨_, run⟩ busy⟩

end LogThreads

end Threads

end LogParse
