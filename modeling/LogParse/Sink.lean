import LogParse.AsyncBackend
import LogParse.Formatter

/-!
# The sinks of a logger

`SinkManager` hands a buffer to its sinks one after the other.  A sink is
known by the calls that returned.  Both backends clear a scratch buffer,
format into it and hand it to the sinks; they differ in the thread that does
so, and with it in the timestamp cache.
-/

namespace LogParse

inductive SinkEvent where
  | write (buffer : Text)
  | flush
  deriving DecidableEq, Repr

def SinkEvent.buffer? : SinkEvent → Option Text
  | .write buffer => some buffer
  | .flush => none

structure Sink where
  events : List SinkEvent := []
  deriving DecidableEq, Repr

namespace Sink

def write (sink : Sink) (buffer : Text) : Sink :=
  { events := sink.events ++ [.write buffer] }

def flush (sink : Sink) : Sink := { events := sink.events ++ [.flush] }

/-- The buffers of the `write` calls. -/
def received (sink : Sink) : List Text :=
  sink.events.filterMap SinkEvent.buffer?

@[simp] theorem received_write (sink : Sink) (buffer : Text) :
    (sink.write buffer).received = sink.received ++ [buffer] := by
  simp [write, received, SinkEvent.buffer?]

@[simp] theorem received_flush (sink : Sink) :
    sink.flush.received = sink.received := by
  simp [flush, received, SinkEvent.buffer?]

end Sink

namespace SinkManager

/-- The loop of `write` from a position on.  It ends at the first sink whose
`write` throws, and then does not return. -/
def writeFrom (throwing : List Nat) (buffer : Text) (position : Nat) :
    List Sink → Bool × List Sink
  | [] => (true, [])
  | sink :: rest =>
      if position ∈ throwing then (false, sink :: rest)
      else
        let (returned, rest) :=
          writeFrom throwing buffer (position + 1) rest
        (returned, sink.write buffer :: rest)

/-- `throwing` holds the positions of the sinks whose `write` throws. -/
def write (sinks : List Sink) (throwing : List Nat) (buffer : Text) :
    Bool × List Sink :=
  writeFrom throwing buffer 0 sinks

def flush (sinks : List Sink) : List Sink := sinks.map Sink.flush

theorem writeFrom_nothrow (buffer : Text) (position : Nat)
    (sinks : List Sink) :
    writeFrom [] buffer position sinks =
      (true, sinks.map (Sink.write · buffer)) := by
  induction sinks generalizing position with
  | nil => rfl
  | cons sink rest induction => simp [writeFrom, induction]

theorem write_nothrow (sinks : List Sink) (buffer : Text) :
    write sinks [] buffer = (true, sinks.map (Sink.write · buffer)) :=
  writeFrom_nothrow buffer 0 sinks

end SinkManager

/-- What throws while one record is handled: the rendering of a token after
some of its characters, or sinks. -/
structure EmitFault where
  rendering : Option (Nat × Nat) := none
  sinks : List Nat := []
  deriving DecidableEq, Repr

/-- `m_formatter` and `m_sinks` of a backend, with the cache of the thread
that uses them. -/
structure Output where
  formatter : Formatter
  cache : TimestampCache := {}
  sinks : List Sink
  deriving DecidableEq, Repr

namespace Output

/-- Clears the scratch buffer, formats the record and writes it.  The result
says whether this returned. -/
def emit (platform : Platform) (fault : EmitFault) (record : LogRecord)
    (output : Output) : Bool × Output :=
  match output.formatter.format platform fault.rendering output.cache []
      record with
  | (some buffer, cache) =>
      let (returned, sinks) :=
        SinkManager.write output.sinks fault.sinks buffer
      (returned, { output with cache := cache, sinks := sinks })
  | (none, cache) => (false, { output with cache := cache })

def flush (output : Output) : Output :=
  { output with sinks := SinkManager.flush output.sinks }

def setPattern (output : Output) (pattern : Text) : Output :=
  { output with formatter := output.formatter.setPattern pattern }

/-- What each sink has received. -/
def received (output : Output) : List (List Text) :=
  output.sinks.map Sink.received

/-- Without an exception every sink receives the record as the formatter
renders it. -/
theorem emit_spec (platform : Platform) (output : Output)
    (sound : output.cache.Sound platform) (record : LogRecord) :
    ∃ cache, cache.Sound platform ∧
      output.emit platform {} record =
        (true, { output with
          cache := cache
          sinks := output.sinks.map
            (Sink.write · (output.formatter.render platform record)) }) := by
  obtain ⟨cache, formatted, cacheSound⟩ :=
    output.formatter.format_spec sound [] record
  refine ⟨cache, cacheSound, ?_⟩
  rw [List.nil_append] at formatted
  simp [emit, formatted, SinkManager.write_nothrow]

@[simp] theorem received_flush (output : Output) :
    output.flush.received = output.received := by
  simp [flush, received, SinkManager.flush, Function.comp_def]

end Output

/-- The emitter of a backend's worker, which swallows every exception. -/
def Output.emitter (platform : Platform) :
    Emitter LogRecord Output EmitFault where
  write fault record output := (output.emit platform fault record).2
  flush := Output.flush

end LogParse
