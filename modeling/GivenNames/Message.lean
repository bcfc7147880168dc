import GivenNames.Request

/-!
Messages and responses.

A message carries an id of any kind, the name of a function and its arguments. Its response carries
the same id and either a result or the reason why there is none, never both. A text that is no
message is answered too, under the id null. The members of every object in a result are in key
order.
-/

namespace GivenNames

/-- A call of a query function, with an id that its response will carry. -/
structure Message where
  id : Json
  function : String
  args : Json
  deriving Repr

/-- A message is a record; its arguments may be left out. -/
def Message.form : Json.Form Message :=
  Json.Form.record "WorkerMessage" [
    .of "id" [] true Json.Form.value fun id m => { m with id := id },
    .of "fn" [] true Json.Form.string fun function m => { m with function := function },
    .of "args" [] false Json.Form.value fun args m => { m with args := args }]
    ⟨.null, "", .null⟩

/-- Why a message has no result: it is no message, its call is refused, or the answer cannot be
written. -/
inductive Refusal where
  | unreadable (fault : Json.Fault)
  | rejected (error : CallError)
  | unwritable (cause : Json.Cause)
  deriving DecidableEq, Repr

/-- The wording of a refusal. -/
def Refusal.message : Refusal → String
  | .unreadable fault => "malformed message: " ++ fault.message
  | .rejected error => error.message
  | .unwritable cause => cause.message

/-- What is sent back for a message. -/
structure Response where
  id : Json
  outcome : Except Refusal Json

namespace Response

/-- A response as an object: the id, then the result or the error. -/
def toJson (r : Response) : Json :=
  match r.outcome with
  | .ok result => .object [("id", r.id), ("result", result)]
  | .error refusal => .object [("id", r.id), ("error", .string refusal.message)]

/-- The line that a response is sent as, without its line feed. -/
def text (r : Response) : String :=
  r.toJson.text

end Response

namespace Message

/-- The response to a message, and what is reported on the way. An answer that cannot be written is
not reported. -/
def answer (registry : Registry) (m : Message) : Response × List Event :=
  let received := Event.received m.id m.function m.args
  match Request.ofValue m.function m.args with
  | .error e => (⟨m.id, .error (.rejected e)⟩, [received, .rejected m.id e.message])
  | .ok request =>
    let (answer, events) := request.run registry
    let events := received :: .runs m.id request.function.name :: events
    match answer.toJson with
    | .error cause => (⟨m.id, .error (.unwritable cause)⟩, events)
    | .ok value => (⟨m.id, .ok value.sorted⟩, events)

/-- The response to a message. -/
def response (registry : Registry) (m : Message) : Response :=
  (m.answer registry).1

/-- The response to the text of a message, and what is reported on the way. -/
def answerText (registry : Registry) (text : String) : Response × List Event :=
  match form.parse text with
  | .error fault => (⟨.null, .error (.unreadable fault)⟩, [.unreadable fault.message])
  | .ok m => m.answer registry

end Message

end GivenNames
