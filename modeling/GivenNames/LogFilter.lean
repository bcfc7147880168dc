import GivenNames.Event
import GivenNames.Pattern
import GivenNames.Text.Blank
import GivenNames.Text.Lowercase
import GivenNames.Text.Pieces
import GivenNames.Text.Shown

/-!
Which events are logged, and how.

A log filter is written as directives with commas between them, each of them a level, a part of the
program, or a part with a level; what follows a slash is a pattern that has to occur in the message.
The directive with the longest name that a part begins with decides, and one without a name decides
where no other does. Directives and patterns that make no sense are left out with a warning.
-/

namespace GivenNames

/-- The events of the parts that begin with a name are shown up to a level; none are where the
level is missing. -/
structure Directive where
  part : Option String
  level : Option Level
  deriving DecidableEq, Repr

/-- The directives, shorter names first, and a pattern that shown messages have to hold. -/
structure LogFilter where
  directives : List Directive
  wanted : Option Pattern

namespace LogFilter

/-! ### Reading -/

/-- The level that a word stands for, the inner one being missing for none; the case of the letters
counts for nothing. -/
def levelOf? (word : String) : Option (Option Level) :=
  if Text.eqIgnoringAsciiCase word "off" then some none
  else
    ([.error, .warn, .info, .debug, .trace].find? fun level =>
      Text.eqIgnoringAsciiCase word (Level.name level)).map some

/-- The directive that a trimmed text stands for, or what is wrong with it. -/
def directiveOf (text : List Char) : Except String Directive :=
  match (Text.pieces '=' text).map String.ofList with
  | [word] =>
    match levelOf? word with
    | some level => .ok ⟨none, level⟩
    | none => .ok ⟨some word, some .trace⟩
  | [part, word] =>
    let word := Text.trim word
    if word.isEmpty then .ok ⟨some part, some .trace⟩
    else
      match levelOf? word with
      | some level => .ok ⟨some part, level⟩
      | none => .error word
  | _ => .error (String.ofList text)

/-- The directives with one more; it takes the place of one with the same name. -/
def insert (d : Directive) : List Directive → List Directive
  | [] => [d]
  | d' :: rest => if d'.part = d.part then d :: rest else d' :: insert d rest

/-- The number of bytes of a directive's name. -/
def nameSize (d : Directive) : Nat :=
  match d.part with
  | some part => part.utf8ByteSize
  | none => 0

/-- The filter of the given directives; without any, errors alone are shown. -/
def ofDirectives (directives : List Directive) (wanted : Option Pattern) : LogFilter :=
  if directives.isEmpty then ⟨[⟨none, some .error⟩], wanted⟩
  else ⟨directives.mergeSort fun a b => nameSize a ≤ nameSize b, wanted⟩

/-- The warning for a specification, or a part of one, that makes no sense. -/
def warning (text more : String) : String :=
  "warning: invalid logging spec " ++ Text.inApostrophes text ++ more ++ ", ignoring it"

/-- Reads directives, and collects warnings. -/
def readDirectives : List (List Char) → List Directive → List Directive × List String
  | [], directives => (directives, [])
  | text :: rest, directives =>
    let text := Text.trimChars text
    if text.isEmpty then readDirectives rest directives
    else
      match directiveOf text with
      | .ok d => readDirectives rest (insert d directives)
      | .error bad =>
        let (directives, warnings) := readDirectives rest directives
        (directives, warning bad "" :: warnings)

/-- The pattern that a text stands for, or the warning about it. -/
def readWanted (text : String) : Except String Pattern :=
  (Pattern.read text).mapError fun refusal =>
    "warning: invalid regex filter - " ++ refusal.message text ++ ", ignoring it"

/-- Reads a filter, and collects warnings. -/
def read (text : String) : LogFilter × List String :=
  match Text.pieces '/' text.toList with
  | [] => (ofDirectives [] none, [])
  | [directives] =>
    let (directives, warnings) := readDirectives (Text.pieces ',' directives) []
    (ofDirectives directives none, warnings)
  | [directives, wanted] =>
    let (directives, warnings) := readDirectives (Text.pieces ',' directives) []
    match readWanted (String.ofList wanted) with
    | .ok pattern => (ofDirectives directives (some pattern), warnings)
    | .error warning => (ofDirectives directives none, warnings ++ [warning])
  | _ => (ofDirectives [] none, [warning text " (too many '/'s)"])

/-! ### Logging -/

/-- The level up to which the events of a part are shown. -/
def levelFor (filter : LogFilter) (origin : Origin) : Option Level :=
  match filter.directives.reverse.find? fun d =>
      match d.part with
      | some part => part.toList.isPrefixOf origin.path.toList
      | none => true with
  | some d => d.level
  | none => none

/-- Whether an event is of a level that is shown of its part. -/
def shows (filter : LogFilter) (e : Event) : Bool :=
  (filter.levelFor e.origin).any fun level => e.level.rank ≤ level.rank

/-- Whether a message holds the wanted pattern. -/
def holdsWanted (filter : LogFilter) (message : String) : Bool :=
  filter.wanted.all fun pattern => pattern.occursIn message

end LogFilter

/-- The name of a level as wide as the widest. -/
def Level.column (level : Level) : String :=
  String.ofList (level.name.toList ++ List.replicate (5 - level.name.length) ' ')

/-- The log line of an event, with its line feed; further lines of the message are set in by four,
and control sequences are left out. -/
def Event.line (e : Event) : String :=
  Text.shown
    ("[" ++ e.level.column ++ " " ++ e.origin.path ++ "] " ++ Text.hang 4 e.message ++ "\n")

/-- The log lines of those events that a filter shows. -/
def LogFilter.lines (filter : LogFilter) (events : List Event) : String :=
  String.join ((events.filter fun e => filter.shows e && filter.holdsWanted e.message).map
    Event.line)

end GivenNames
