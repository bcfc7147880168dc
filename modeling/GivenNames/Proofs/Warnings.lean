import GivenNames.Proofs.Answers
import GivenNames.Proofs.Service

/-!
What the service warns of.

A line that spells no message and a call that is refused are both answered with an error, and each
is reported with one warning; what is reported of a call that is answered is no warning
(`warnings_run`). An answer that cannot be written would be an error without a warning, but there is
none (`outcome_answerText_ne_unwritable`). Main statement: over a whole text, and a sink that takes
everything, the warnings are those of the errors that are written, one for each and in their order
(`serve_warns`).
-/

namespace GivenNames.Service

/-! ### Warnings and replies -/

/-- The texts of the warnings among what is reported, in order. -/
def warnings (events : List Event) : List String :=
  (events.filter fun e => e.level = .warn).map Event.message

/-- Replies to messages, line by line, and warnings: a line that spells no message is answered with
an error under the id null, a call that is refused with an error under its own id, and either has
its warning; a result has none. -/
inductive Warned (registry : Registry) : List String → List Json → List String → Prop
  | done : Warned registry [] [] []
  | unreadable {line : String} {fault : Json.Fault} {lines : List String} {replies : List Json}
      {warned : List String} (unread : Message.form.parse line = .error fault)
      (others : Warned registry lines replies warned) :
      Warned registry (line :: lines)
        (.object [("id", .null), ("error", .string ("malformed message: " ++ fault.message))] ::
          replies)
        (("unreadable message: " ++ fault.message) :: warned)
  | rejected {line : String} {m : Message} {error : CallError} {lines : List String}
      {replies : List Json} {warned : List String} (taken : Message.form.parse line = .ok m)
      (refused : Request.ofValue m.function m.args = .error error)
      (others : Warned registry lines replies warned) :
      Warned registry (line :: lines)
        (.object [("id", m.id), ("error", .string error.message)] :: replies)
        (("rejected message " ++ m.id.text ++ ": " ++ error.message) :: warned)
  | answered {line : String} {m : Message} {request : Request} {lines : List String}
      {replies : List Json} {warned : List String} (taken : Message.form.parse line = .ok m)
      (accepted : Request.ofValue m.function m.args = .ok request)
      (others : Warned registry lines replies warned) :
      Warned registry (line :: lines)
        (.object [("id", m.id), ("result", (request.answer registry).value.sorted)] :: replies)
        warned

theorem warnings_append (events more : List Event) :
    warnings (events ++ more) = warnings events ++ warnings more := by
  simp [warnings]

/-- Nothing that is reported of a query is a warning. -/
theorem warnings_run (registry : Registry) (request : Request) :
    warnings (request.run registry).2 = [] := by
  cases request <;> rfl

/-! ### One line -/

variable {registry : Registry}

/-- One more line is answered and warned of as the lines after it are. -/
theorem Warned.cons {lines : List String} {replies : List Json} {warned : List String}
    (others : Warned registry lines replies warned) (line : String) :
    Warned registry (line :: lines) ((Message.answerText registry line).1.toJson :: replies)
      (warnings (Message.answerText registry line).2 ++ warned) := by
  unfold Message.answerText
  cases taken : Message.form.parse line with
  | error fault => exact .unreadable taken others
  | ok m =>
      cases called : Request.ofValue m.function m.args with
      | error error =>
          simp only [Message.answer, called]
          exact .rejected taken called others
      | ok request =>
          have silent : warnings (.received m.id m.function m.args ::
              .runs m.id request.function.name :: (request.run registry).2) = [] :=
            warnings_run registry request
          simp only [Message.answer_of_ofValue called, silent, List.nil_append]
          exact .answered taken called others

/-- No line is answered with the one error that is not warned of. -/
theorem outcome_answerText_ne_unwritable (registry : Registry) (line : String)
    (cause : Json.Cause) :
    (Message.answerText registry line).1.outcome ≠ .error (.unwritable cause) := by
  unfold Message.answerText
  cases taken : Message.form.parse line with
  | error fault => simp
  | ok m => exact m.outcome_ne_unwritable registry cause

/-- What is reported of lines, one after the other. -/
def reports (registry : Registry) (lines : List String) : List Event :=
  lines.flatMap fun line => (Message.answerText registry line).2

theorem warned_reports (registry : Registry) (lines : List String) :
    Warned registry lines (lines.map fun line => (Message.answerText registry line).1.toJson)
      (warnings (reports registry lines)) := by
  induction lines with
  | nil => exact .done
  | cons line lines ih =>
      rw [reports, List.flatMap_cons, warnings_append]
      exact ih.cons line

/-! ### A whole run -/

/-- A sink without limits is without limits after every line, so all lines are served and all that
is reported of them is reported. -/
theorem events_serveLines (lines : List String) {sink : Sink} (roomy : sink.room = none)
    (patient : sink.flushes = none) :
    (serveLines registry (lines.map Text.encode) sink).events =
      reports registry (lines.filter fun line => Text.trim line ≠ "") := by
  induction lines generalizing sink with
  | nil => rfl
  | cons line lines ih =>
      have answer := answerLine_of_decode? registry (Text.decode?_encode line)
      by_cases blank : Text.trim line = ""
      · have kept : (line :: lines).filter (fun line => Text.trim line ≠ "") =
            lines.filter fun line => Text.trim line ≠ "" := by simp [blank]
        rw [if_pos blank] at answer
        simp only [List.map_cons, serveLines, answer, kept]
        exact ih roomy patient
      · have kept : (line :: lines).filter (fun line => Text.trim line ≠ "") =
            line :: lines.filter fun line => Text.trim line ≠ "" := by simp [blank]
        have put : sink.putLine (Message.answerText registry line).1.text = _ :=
          Sink.putLine_taken (by simp [roomy]) (by simp [patient])
        rw [if_neg blank] at answer
        simp only [List.map_cons, serveLines, answer, put, kept, Outcome.after]
        rw [ih (by simp [Sink.after, roomy, leftOf]) (by simp [Sink.after, patient, leftOf])]
        rfl

/-- Over a sink that takes everything, the service replies to every message of a text, and its
warnings are those of the errors among the replies, one for each and in their order: of a line that
spells no message with what is wrong with it, of a call that is refused with its id and the words of
the error. Nothing else is a warning. The error that has no warning, for an answer that cannot be
written, is never the outcome of a line. -/
theorem serve_warns (registry : Registry) (input : String) :
    let outcome := serve registry (Text.encode input) .unlimited
    (∃ replies, Warned registry (messages input) replies (warnings outcome.events) ∧
      outcome.sink.written = (replies.map fun reply => Sink.frame reply.text).flatten ∧
      outcome.stop = none) ∧
    ∀ line ∈ messages input, ∀ cause,
      (Message.answerText registry line).1.outcome ≠ .error (.unwritable cause) := by
  intro outcome
  have events : outcome.events = reports registry (messages input) := by
    have served := @events_serveLines registry (Text.textLines input) .unlimited rfl rfl
    rwa [← Text.lines_encode] at served
  refine ⟨⟨(messages input).map fun line => (Message.answerText registry line).1.toJson,
    ?_, ?_, ?_⟩, fun line _ => outcome_answerText_ne_unwritable registry line⟩
  · rw [events]
    exact warned_reports registry (messages input)
  · have written := written_serve registry input none none
    rw [List.map_map]
    exact written
  · have stopped := stop_serve registry input none none
    simp only [allows_none, if_true] at stopped
    exact stopped

end GivenNames.Service
