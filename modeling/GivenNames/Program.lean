import GivenNames.Config
import GivenNames.LogFilter
import GivenNames.Service
import GivenNames.Source.Load

/-!
The program: it loads the registry and then answers messages until its input ends.

The settings decide on the path and on what is logged; a log filter of its own variable goes before
the level of the configuration, even when it is empty. Responses go to the output, all else to the
error stream: warnings about the settings, log lines, and at last the reason of a failure.
-/

namespace GivenNames

/-- The settings that the environment holds. -/
structure Environment where
  dataPath : Option String
  logLevel : Option String
  logFilter : Option String
  deriving DecidableEq, Repr

namespace Environment

/-- The variable that holds the path of the registrations. -/
def dataPathVariable : String := "NAMESCOPE_DATA"

/-- The variable that holds the level of the log. -/
def logLevelVariable : String := "NAMESCOPE_LOG"

/-- The variable that holds a log filter. -/
def logFilterVariable : String := "RUST_LOG"

/-- The settings, by what the environment holds for a variable. -/
def ofVariables (value : String → Option String) : Environment :=
  ⟨value dataPathVariable, value logLevelVariable, value logFilterVariable⟩

end Environment

namespace Program

/-! ### Failures -/

/-- A cause with its number, right-aligned in five columns. -/
def numberedCause (number : Nat) (cause : String) : String :=
  let digits := Integer.natChars number
  "\n" ++ String.ofList (List.replicate (5 - digits.length) ' ' ++ digits) ++ ": "
    ++ Text.hang 7 cause

/-- The causes of a failure; a single one has no number. -/
def causeLines : List String → String
  | [cause] => "\n    " ++ Text.hang 4 cause
  | causes => String.join (causes.zipIdx.map fun (cause, number) => numberedCause number cause)

/-- What is said of a failure: what failed, then its causes. -/
def failureText : List String → String
  | [] => ""
  | [failure] => "Error: " ++ failure ++ "\n"
  | failure :: causes => "Error: " ++ failure ++ "\n\nCaused by:" ++ causeLines causes ++ "\n"

/-! ### Running -/

/-- The configuration of a run. -/
def config (args : List String) (env : Environment) : Config :=
  Config.resolve args.head? env.dataPath env.logLevel

/-- The log filter of a run, and the warnings about it. -/
def logFilter (args : List String) (env : Environment) : LogFilter × List String :=
  LogFilter.read (env.logFilter.getD (config args env).logLevel)

/-- What a run leaves: its exit code, its output, and the text on the error stream. -/
structure Outcome where
  exit : Nat
  output : Text.Bytes
  errors : String
  deriving DecidableEq, Repr

/-- What is said on the error stream before the registry is loaded. -/
def opening (args : List String) (env : Environment) : String :=
  String.join ((logFilter args env).2.map fun warning => warning ++ "\n")

/-- Runs the program on what stands at each path, and on its input. -/
def run (args : List String) (env : Environment) (content : String → Content)
    (input : Text.Bytes) : Outcome :=
  let filter := (logFilter args env).1
  let path := (config args env).dataPath
  match loadWithEvents path (content path) with
  | (.error e, events) => ⟨1, [], opening args env ++ filter.lines events ++ failureText e.causes⟩
  | (.ok registry, events) =>
    let served := Service.serve registry input .unlimited
    let log := opening args env ++ filter.lines (events ++ .ready :: served.events)
    match served.stop with
    | none => ⟨0, served.sink.written, log⟩
    | some stop => ⟨1, served.sink.written, log ++ failureText stop.causes⟩

end Program

end GivenNames
