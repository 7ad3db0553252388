/-
# RecordQuery.Command.Log -- log lines

A log line has a level, a target that says what part of the program it comes from,
and a text.
-/

namespace RecordQuery

set_option autoImplicit false

inductive LogLevel where
  | error
  | warn
  | info
  | debug
  | trace
deriving DecidableEq

namespace LogLevel

/-- Greater for levels that say more. -/
def verbosity : LogLevel → Nat
  | .error => 1
  | .warn => 2
  | .info => 3
  | .debug => 4
  | .trace => 5

/-- The name, filled up to five characters. -/
def label : LogLevel → String
  | .error => "ERROR"
  | .warn => "WARN "
  | .info => "INFO "
  | .debug => "DEBUG"
  | .trace => "TRACE"

end LogLevel

structure LogLine where
  level : LogLevel
  target : String
  text : String
deriving DecidableEq

namespace LogLine

def render (line : LogLine) : String :=
  s!"[{line.level.label} {line.target}] {line.text}\n"

end LogLine

end RecordQuery
