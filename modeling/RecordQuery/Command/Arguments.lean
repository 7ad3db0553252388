/-
# RecordQuery.Command.Arguments -- the command line and the environment

`Invocation.ofArguments` reads the arguments from left to right and stops at the
first that settles the matter: a fault, or a request for the version or for help.
Options stand anywhere before or after the search, and `--` ends them.  What the
arguments leave open is taken from the environment.
-/
import RecordQuery.Record

namespace RecordQuery

set_option autoImplicit false

/-- Where the records come from. -/
inductive Source where
  | file (path : String)
  | standardInput
deriving DecidableEq

inductive Task where
  | check (search : String) (asJson : Bool)
  | filter (search : String) (source : Source) (options : FieldOptions)

structure Invocation where
  verbose : Bool
  task : Task

/-- Why a command line leads to no task. -/
inductive Refusal where
  | usage
  | version
  | help
deriving DecidableEq

/-- The environment variables that the program reads. -/
structure Environment where
  search : Option String
  input : Option String
  dateFields : Option String
  log : Option String

namespace Environment

def searchName : String := "SEARCHQ_SEARCH"
def inputName : String := "SEARCHQ_INPUT"
def dateFieldsName : String := "SEARCHQ_DATE_FIELDS"
def logName : String := "RUST_LOG"

/-- The environment in which the variables have these values. -/
def ofLookup (get : String → Option String) : Environment :=
  ⟨get searchName, get inputName, get dateFieldsName, get logName⟩

end Environment

namespace Invocation

inductive TaskName where
  | check
  | filter
deriving DecidableEq

/-- What the arguments of a task have given so far. -/
structure Given where
  verbose : Bool
  asJson : Bool
  missingIsNull : Bool
  search : Option String
  input : Option String
  dateFields : List String
  dateFieldsGiven : Bool

namespace Given

def none : Given := ⟨false, false, false, .none, .none, [], false⟩

end Given

/-- The names between commas, blanks kept. -/
def splitNames (t : String) : List String :=
  (t.toList.splitOn ',').map String.ofList

/-- Sets a flag, which may be given once. -/
def once (given : Bool) (set : Given) : Except Refusal Given :=
  if given then .error .usage else .ok set

/-- An argument without a value. -/
def addFlag (task : TaskName) (g : Given) (name : String) : Except Refusal Given :=
  match task, name with
  | _, "verbose" => once g.verbose { g with verbose := true }
  | _, "help" => .error .help
  | .check, "json" => once g.asJson { g with asJson := true }
  | .filter, "missing-as-null" => once g.missingIsNull { g with missingIsNull := true }
  | _, _ => .error .usage

/-- Whether the option of this name takes a value. -/
def takesValue (task : TaskName) (name : String) : Bool :=
  task == .filter && (name == "input" || name == "date-field")

/-- An option with its value.  A path is never empty and is given once. -/
def addValue (g : Given) (name value : String) : Except Refusal Given :=
  if name = "input" then
    if value = "" ∨ g.input.isSome then .error .usage else .ok { g with input := some value }
  else
    .ok { g with
      dateFields := g.dateFields ++ splitNames value
      dateFieldsGiven := true }

/-- One-letter flags after a single dash. -/
def addShort (task : TaskName) (g : Given) : List Char → Except Refusal Given
  | [] => .ok g
  | 'v' :: rest => do
    let g ← addFlag task g "verbose"
    addShort task g rest
  | 'h' :: _ => .error .help
  | _ :: _ => .error .usage

/-- The search, of which there is one. -/
def addSearch (g : Given) (value : String) : Except Refusal Given :=
  if g.search.isSome then .error .usage else .ok { g with search := some value }

/-- The argument is an option and no value.  A dash alone is a value. -/
def isOption (argument : List Char) : Bool :=
  match argument with
  | '-' :: _ :: _ => true
  | _ => false

/-- Splits an option at its first equals sign; the value is there only if the sign is. -/
def splitValue (t : List Char) : String × Option String :=
  match t.dropWhile (· != '=') with
  | [] => (String.ofList t, none)
  | _ :: value => (String.ofList (t.takeWhile (· != '=')), some (String.ofList value))

/-- The arguments after the name of the task; `waiting` names the option that the next one is the
value of. -/
def readTask (task : TaskName) (g : Given) (waiting : Option String) :
    List String → Except Refusal Given
  | [] => if waiting.isSome then .error .usage else .ok g
  | argument :: rest =>
    match waiting, argument.toList with
    | some name, t =>
      if isOption t then .error .usage
      else do
        let g ← addValue g name argument
        readTask task g none rest
    | none, ['-', '-'] => rest.foldlM addSearch g
    | none, '-' :: '-' :: long => do
      match takesValue task (splitValue long).1, splitValue long with
      | true, (name, some value) =>
        let g ← addValue g name value
        readTask task g none rest
      | true, (name, none) => readTask task g (some name) rest
      | false, (_, some _) => .error .usage
      | false, (name, none) =>
        let g ← addFlag task g name
        readTask task g none rest
    | none, '-' :: c :: short => do
      let g ← addShort task g (c :: short)
      readTask task g none rest
    | none, _ => do
      let g ← addSearch g argument
      readTask task g none rest

/-- The task that the arguments give, completed from the environment. -/
def complete (environment : Environment) (task : TaskName) (g : Given) : Except Refusal Task := do
  let some search := g.search.or environment.search | throw .usage
  match task with
  | .check => return .check search g.asJson
  | .filter =>
    let input? := g.input.or environment.input
    if input? = some "" then throw .usage
    let dateFields :=
      if g.dateFieldsGiven then g.dateFields
      else (environment.dateFields.map splitNames).getD []
    let source := match input? with
      | some path => Source.file path
      | none => Source.standardInput
    return .filter search source ⟨dateFields, g.missingIsNull⟩

/-- One-letter flags in front of the task; the result says whether the log is to be verbose. -/
def addShortInFront (verbose : Bool) : List Char → Except Refusal Bool
  | [] => .ok verbose
  | 'v' :: rest => if verbose then .error .usage else addShortInFront true rest
  | 'V' :: _ => .error .version
  | 'h' :: _ => .error .help
  | _ :: _ => .error .usage

def taskName? : String → Option TaskName
  | "check" => some .check
  | "filter" => some .filter
  | _ => none

/-- What comes of asking for help on a topic: the program as a whole, or one of its tasks. -/
def helpOn : List String → Refusal
  | [] => .help
  | [topic] => if topic = "help" ∨ (taskName? topic).isSome then .help else .usage
  | _ => .usage

/-- The arguments up to the name of the task and from there on. -/
def readFront (environment : Environment) (verbose : Bool) :
    List String → Except Refusal Invocation
  | [] => .error .usage
  | argument :: rest =>
    match argument.toList with
    | ['-', '-', 'v', 'e', 'r', 'b', 'o', 's', 'e'] =>
      if verbose then .error .usage else readFront environment true rest
    | '-' :: '-' :: _ =>
      if argument = "--version" then .error .version
      else if argument = "--help" then .error .help
      else .error .usage
    | '-' :: c :: short => do
      let verbose ← addShortInFront verbose (c :: short)
      readFront environment verbose rest
    | _ =>
      match taskName? argument with
      | some name => do
        let given ← readTask name .none none rest
        let task ← complete environment name given
        return ⟨verbose || given.verbose, task⟩
      | none => .error (if argument = "help" then helpOn rest else .usage)

def ofArguments (environment : Environment) (arguments : List String) :
    Except Refusal Invocation :=
  readFront environment false arguments

end Invocation

end RecordQuery
