/-
# RecordQuery.Command.Run -- a whole run of the program

`Invocation.run` is the answer to a command line whose input has been read: exit
code and the text of both output streams.  Warnings about the log filter come first,
then the log lines, then the error line.  Input that cannot be read, or holds no
records, ends the run with the causes of the failure in one line.
-/
import RecordQuery.Command.Activity
import RecordQuery.Command.Arguments
import RecordQuery.Command.Files
import RecordQuery.Command.LogFilter

namespace RecordQuery

set_option autoImplicit false

namespace Program

def name : String := "searchq"
def version : String := "0.1.0"

/-- The line that tells the version. -/
def versionLine : String := s!"{name} {version}\n"

/-- The lines that tell how the program is called. -/
def usage : String :=
  s!"Usage: {name} [-v] check [--json] <SEARCH>\n" ++
  s!"       {name} [-v] filter [--input <FILE>] [--date-field <NAMES>] [--missing-as-null] " ++
  "<SEARCH>\n"

end Program

namespace Source

/-- What a message calls the source. -/
def name : Source → String
  | .file path => path
  | .standardInput => "stdin"

/-- The text of a source, from the bytes of the standard input and the files there are. -/
def read (standardInput : ByteArray) (openFile : String → Except ReadFailure ByteArray) :
    Source → Except ReadFailure String
  | .file path => (openFile path).bind decodeInput
  | .standardInput => decodeInput standardInput

end Source

namespace InputError

/-- The message with its cause behind it. -/
def fullMessage (input : String) : InputError → String
  | .notJson cause => InputError.message (.notJson cause) ++ ": " ++ cause.message input.toList
  | e => e.message

end InputError

namespace Invocation

/-- Which log lines are shown, with what makes no sense about that: the environment says, or else
the verbosity. -/
def logFilter (invocation : Invocation) (environment : Environment) :
    LogFilter × List LogFilterFault :=
  LogFilter.ofText (environment.log.getD (if invocation.verbose then "debug" else "warn"))

/-- The source that has to be read before the run. -/
def source? (invocation : Invocation) : Option Source :=
  match invocation.task with
  | .check _ _ => none
  | .filter _ source _ => some source

/-- The log and the answer of a task. -/
def perform (task : Task) (input : Source → Except ReadFailure String) :
    List LogLine × Report :=
  match task with
  | .check search asJson => (Activity.ofCheck search, Command.check search asJson)
  | .filter search source options =>
    match input source with
    | .error failure => ([], .refuse s!"failed to read {source.name}: {failure.message}")
    | .ok text =>
      let log := Activity.ofFilter search text options
      match Command.filter search text options with
      | .ok report => (log, report)
      | .error e => (log, .refuse (e.fullMessage text))

/-- The answer with the warnings and the log lines that are shown. -/
def run (invocation : Invocation) (environment : Environment)
    (input : Source → Except ReadFailure String) : Report :=
  let (log, report) := perform invocation.task input
  let (filter, faults) := invocation.logFilter environment
  let warnings := "".intercalate (faults.map LogFilterFault.warning)
  { report with errors := warnings ++ filter.render log ++ report.errors }

end Invocation

end RecordQuery
