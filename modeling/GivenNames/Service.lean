import GivenNames.Message
import GivenNames.Text.Blank
import GivenNames.Text.Lines

/-!
The service: one response line for every line of a stream that is not blank, in order.

Responses go to a sink that may refuse: it takes a number of bytes and a number of flushes, and
fails from then on. A line that is not text ends the service, and so does a sink that fails; every
other fault is answered.
-/

namespace GivenNames

/-! ### The sink -/

/-- What has been written, and how many more bytes and flushes are taken, where that is limited. -/
structure Sink where
  written : Text.Bytes
  room : Option Nat
  flushes : Option Nat
  deriving DecidableEq, Repr

/-- Why the service ends before its input does. -/
inductive Stop where
  | notText
  | full
  | flushRefused
  deriving DecidableEq, Repr

/-- What is said of an early end: what was being done, then why it failed. -/
def Stop.causes : Stop → List String
  | .notText => ["reading message", "stream did not contain valid UTF-8"]
  | .full => ["writing response", "sink full"]
  | .flushRefused => ["flushing response", "flush refused"]

namespace Sink

/-- A sink that takes everything. -/
def unlimited : Sink :=
  ⟨[], none, none⟩

/-- Writes as many of the bytes as there is room for; the flag says whether that is all of them. -/
def write (sink : Sink) (bytes : Text.Bytes) : Sink × Bool :=
  match sink.room with
  | none => ({ sink with written := sink.written ++ bytes }, true)
  | some room =>
    ({ sink with
        written := sink.written ++ bytes.take room
        room := some (room - bytes.length) },
      bytes.length ≤ room)

/-- Flushes; the flag says whether the flush was taken. -/
def flush (sink : Sink) : Sink × Bool :=
  match sink.flushes with
  | none => (sink, true)
  | some 0 => (sink, false)
  | some (flushes + 1) => ({ sink with flushes := some flushes }, true)

/-- Writes a whole line and flushes. -/
def putLine (sink : Sink) (text : String) : Sink × Option Stop :=
  match sink.write (Text.encode text ++ [Text.lineFeed]) with
  | (sink, false) => (sink, some .full)
  | (sink, true) =>
    match sink.flush with
    | (sink, false) => (sink, some .flushRefused)
    | (sink, true) => (sink, none)

end Sink

/-! ### Serving -/

namespace Service

/-- What a run of the service leaves: the sink, the reports in order, and why it ended early, if it
did. -/
structure Outcome where
  sink : Sink
  events : List Event
  stop : Option Stop

/-- The outcome with more reports in front. -/
def Outcome.after (events : List Event) (outcome : Outcome) : Outcome :=
  { outcome with events := events ++ outcome.events }

/-- The response to one line and what is reported; a blank line has none. -/
def answerLine (registry : Registry) (line : Text.Bytes) :
    Except Stop (Option (Response × List Event)) :=
  match Text.decode? line with
  | none => .error .notText
  | some text =>
    if Text.isBlankText text then .ok none else .ok (some (Message.answerText registry text))

/-- Serves lines one after the other. -/
def serveLines (registry : Registry) : List Text.Bytes → Sink → Outcome
  | [], sink => ⟨sink, [], none⟩
  | line :: lines, sink =>
    match answerLine registry line with
    | .error stop => ⟨sink, [], some stop⟩
    | .ok none => serveLines registry lines sink
    | .ok (some (response, events)) =>
      match sink.putLine response.text with
      | (sink, some stop) => ⟨sink, events, some stop⟩
      | (sink, none) => (serveLines registry lines sink).after events

/-- Serves a whole stream. -/
def serve (registry : Registry) (input : Text.Bytes) (sink : Sink) : Outcome :=
  serveLines registry (Text.lines input) sink

end Service

end GivenNames
