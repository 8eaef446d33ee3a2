import Mathlib.Algebra.Group.Nat.Defs
import Mathlib.Data.List.Basic

/-!
# Levels and the runtime configuration

`Config` carries the defaults of its C++ counterpart.  A `std::string`, a
`std::string_view` and a `std::filesystem::path` are lists of characters, one
for each `char`; a `std::size_t` is a natural number below `2 ^ 64`.
-/

namespace LogParse

abbrev Text := List Char

inductive Level where
  | trace
  | debug
  | info
  | warn
  | error
  | fatal
  | off
  deriving DecidableEq, Repr

namespace Level

/-- The value of the enumerator, `static_cast<std::uint8_t>(level)`. -/
def toNat : Level → Nat
  | .trace => 0
  | .debug => 1
  | .info => 2
  | .warn => 3
  | .error => 4
  | .fatal => 5
  | .off => 6

/-- `operator<` on levels. -/
def lt (lhs rhs : Level) : Bool := lhs.toNat < rhs.toNat

/-- `detail::KLevelNames`. -/
def levelNames : List Text :=
  ["TRACE".toList, "DEBUG".toList, "INFO".toList, "WARN".toList,
    "ERROR".toList, "FATAL".toList, "OFF".toList]

def toString (level : Level) : Text := levelNames.getD level.toNat []

end Level

inductive LoggerMode where
  | sync
  | async
  deriving DecidableEq, Repr

inductive OverflowPolicy where
  | block
  | dropNewest
  | dropOldest
  | discard
  deriving DecidableEq, Repr

structure RotationConfig where
  enabled : Bool := false
  maxFileSize : Nat := 10 * 1024 * 1024
  maxFile : Nat := 5
  deriving DecidableEq, Repr

structure Config where
  mode : LoggerMode := .async
  level : Level := .info
  coloredOutput : Bool := true
  flushOnError : Bool := true
  pattern : Text := "[%Y-%m-%d %H:%M:%S] [%l] [T%t] %m".toList
  enableConsole : Bool := true
  enableFile : Bool := false
  filePath : Text := "logs/application.log".toList
  rotation : RotationConfig := {}
  queueCapacity : Nat := 65535 + 1
  overflowPolicy : OverflowPolicy := .block
  flushIntervalMs : Nat := 1000
  deriving DecidableEq, Repr

def Config.async (config : Config) : Bool := config.mode = .async

def Config.sync (config : Config) : Bool := config.mode = .sync

end LogParse
