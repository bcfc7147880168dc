import GivenNames.Json.Fault
import GivenNames.Json.Printer
import GivenNames.Registry

/-!
What the program reports while it works: closed kinds of events, each with a level, the part of the
program that it comes from, and its wording.
-/

namespace GivenNames

/-- How grave an event is. -/
inductive Level where
  | error
  | warn
  | info
  | debug
  | trace
  deriving DecidableEq, Repr

namespace Level

/-- The more that is shown, the higher the rank. -/
def rank : Level → Nat
  | .error => 1
  | .warn => 2
  | .info => 3
  | .debug => 4
  | .trace => 5

def name : Level → String
  | .error => "ERROR"
  | .warn => "WARN"
  | .info => "INFO"
  | .debug => "DEBUG"
  | .trace => "TRACE"

end Level

/-- The part of the program that an event comes from. -/
inductive Origin where
  | program
  | loader
  | views
  | worker
  deriving DecidableEq, Repr

/-- The path that log lines name a part by. -/
def Origin.path : Origin → String
  | .program => "namescope"
  | .loader => "namescope::data::loader"
  | .views => "namescope::query"
  | .worker => "namescope::worker"

/-- Something worth a log line. -/
inductive Event where
  | loaded (count : Nat) (path : String) (districts : Nat) (years : Option YearSpan)
  | preview (registration : Registration)
  | ready
  | tableCandidates (count : Nat) (kept : Nat)
  | scatterPoints (count : Nat)
  | received (id : Json) (function : String) (args : Json)
  | runs (id : Json) (function : String)
  | rejected (id : Json) (reason : String)
  | unreadable (reason : String)

namespace Event

def level : Event → Level
  | .loaded .. => .info
  | .preview _ => .debug
  | .ready => .info
  | .tableCandidates .. => .debug
  | .scatterPoints _ => .debug
  | .received .. => .debug
  | .runs .. => .debug
  | .rejected .. => .warn
  | .unreadable _ => .warn

def origin : Event → Origin
  | .loaded .. => .loader
  | .preview _ => .loader
  | .ready => .program
  | .tableCandidates .. => .views
  | .scatterPoints _ => .views
  | .received .. => .worker
  | .runs .. => .worker
  | .rejected .. => .worker
  | .unreadable _ => .worker

def message : Event → String
  | .loaded count path districts years =>
    "loaded " ++ Integer.natText count ++ " records from " ++ path ++ " ("
      ++ Integer.natText districts ++ " districts, years " ++ YearSpan.logText years ++ ")"
  | .preview r => r.logText
  | .ready => "ready, reading queries from stdin"
  | .tableCandidates count kept =>
    "name table: " ++ Integer.natText count ++ " candidates before top-" ++ Integer.natText kept
      ++ " cut"
  | .scatterPoints count => "rarity scatter: " ++ Integer.natText count ++ " points"
  | .received id function args =>
    "worker received message " ++ id.text ++ " " ++ function ++ " " ++ args.text
  | .runs id function => "message " ++ id.text ++ " runs " ++ function
  | .rejected id reason => "rejected message " ++ id.text ++ ": " ++ reason
  | .unreadable reason => "unreadable message: " ++ reason

end Event

end GivenNames
