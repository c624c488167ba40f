/-!
How much the program writes to its log.
-/

namespace Swarmkeeper.CommandLine

/-- The levels, each including those before it. -/
inductive LogLevel where
  | error
  | warn
  | info
  | debug
  | trace
deriving DecidableEq, Repr

namespace LogLevel

/-- The level unless another is asked for. -/
def standard : LogLevel := .warn

/-- Every level. -/
def all : List LogLevel := [error, warn, info, debug, trace]

/-- The name of a level. -/
def name : LogLevel → String
  | error => "error"
  | warn => "warn"
  | info => "info"
  | debug => "debug"
  | trace => "trace"

/-- The name of a level as the log writes it. -/
def logName (l : LogLevel) : String := l.name.toUpper

/-- The level with this name; on request the case of ASCII letters does not count. -/
def ofName? (ignoreCase : Bool) (s : String) : Option LogLevel :=
  all.find? fun l => l.name = if ignoreCase then s.toLower else s

end LogLevel

end Swarmkeeper.CommandLine
