/-
# RecordQuery.Main -- the command line program

Reads the environment and the input, runs the invocation and writes its report.
-/
import RecordQuery.Command.Run

set_option autoImplicit false

namespace RecordQuery.Program

/-- The system's number of a failure, which some calls give with its sign reversed. -/
def systemCode (code : UInt32) : UInt32 := min code (0 - code)

/-- The cause of a failure to open or read a file. -/
def readFailure (e : IO.Error) : ReadFailure :=
  match e with
  | .noFileOrDirectory _ _ _ => .notFound
  | .permissionDenied _ code _ => .other s!"Permission denied (os error {systemCode code})"
  | .inappropriateType _ code _ => if systemCode code = 20 then .notDirectory else .isDirectory
  | .invalidArgument _ code _ =>
    if systemCode code = 36 then .nameTooLong else .other (toString e)
  | _ => .other (toString e)

/-- The bytes of a stream up to its end. -/
partial def readToEnd (stream : IO.FS.Stream) (read : ByteArray) : IO ByteArray := do
  let chunk ← stream.read 65536
  if chunk.isEmpty then return read else readToEnd stream (read ++ chunk)

def readSource : Source → IO (Except ReadFailure String)
  | .file path => do
    try
      return decodeInput (← IO.FS.readBinFile path)
    catch e => return .error (readFailure e)
  | .standardInput => do
    return decodeInput (← readToEnd (← IO.getStdin) ByteArray.empty)

def readEnvironment : IO Environment := do
  return {
    search := ← IO.getEnv Environment.searchName
    input := ← IO.getEnv Environment.inputName
    dateFields := ← IO.getEnv Environment.dateFieldsName
    log := ← IO.getEnv Environment.logName }

def execute (arguments : List String) : IO UInt32 := do
  let environment ← readEnvironment
  match Invocation.ofArguments environment arguments with
  | .error .version =>
    IO.print versionLine
    return 0
  | .error .help =>
    IO.print usage
    return 0
  | .error .usage =>
    IO.eprint usage
    return 2
  | .ok invocation =>
    let text ← match invocation.source? with
      | some source => readSource source
      | none => pure (.ok "")
    let report := invocation.run environment fun _ => text
    IO.print report.out
    IO.eprint report.errors
    return UInt32.ofNat report.outcome.code

end RecordQuery.Program

def main (arguments : List String) : IO UInt32 :=
  RecordQuery.Program.execute arguments
