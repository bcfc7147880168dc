import GivenNames.Proofs.Counts

/-!
Calls and messages.

A function is called in two ways: as text, which gives text, and in a message, which gives a value
inside a response. Main statement: where the text of the arguments stands for the value in the
message, both ways give the same answer or refuse the call for the same reason
(`response_of_call`). What is printed by the one is what the other puts into key order, because
every answer can be written, and is written as a plain value.
-/

namespace GivenNames

open Message

/-- The printed answer to a request reads back, with its members in key order. -/
theorem Request.parse_text_answer {registry : Registry}
    (held : registry.registrations.length < UInt64.size) (request : Request) :
    Json.parse (request.answer registry).value.text =
      .ok (request.answer registry).value.sorted :=
  Json.parse_text (Answer.plain_value (request.counts_lt held) 125)

theorem Request.ofText_of_parse {text : String} {args : Json} (parsed : Json.parse text = .ok args)
    (name : String) : ofText name text = ofValue name args := by
  rw [ofText, parsed]

theorem Message.response_eq (registry : Registry) (id : Json) (name : String) (args : Json) :
    response registry ⟨id, name, args⟩ =
      match Request.ofValue name args with
      | .ok request => ⟨id, .ok (request.answer registry).value.sorted⟩
      | .error e => ⟨id, .error (.rejected e)⟩ := by
  unfold response
  cases taken : Request.ofValue name args with
  | ok request => rw [answer_of_ofValue taken]
  | error e => simp only [answer, taken]

/-- A message is answered as the call of its function with the text of its arguments: under its own
id, with the value that the text of the answer stands for and no error, or with the wording of the
error and no result. The only errors are those of taking the arguments: every answer to a request
can be written, so neither way fails for its answer. A machine holds fewer registrations than there
are words. -/
theorem response_of_call {registry : Registry}
    (held : registry.registrations.length < UInt64.size) {text : String} {args : Json}
    (parsed : Json.parse text = .ok args) (name : String) (id : Json) :
    (match call registry name text with
      | .ok written => ∃ result, Json.parse written = .ok result ∧
          response registry ⟨id, name, args⟩ = ⟨id, .ok result⟩ ∧
          (response registry ⟨id, name, args⟩).toJson = .object [("id", id), ("result", result)]
      | .error e => Request.ofValue name args = .error e ∧
          response registry ⟨id, name, args⟩ = ⟨id, .error (.rejected e)⟩ ∧
          (response registry ⟨id, name, args⟩).toJson =
            .object [("id", id), ("error", .string e.message)]) ∧
      (∀ request : Request, ∃ value, (request.answer registry).toJson = .ok value) ∧
      ∀ cause, (response registry ⟨id, name, args⟩).outcome ≠ .error (.unwritable cause) := by
  refine ⟨?_, fun request => ⟨_, Answer.toJson_eq _⟩, outcome_ne_unwritable registry _⟩
  rw [call_eq, Request.ofText_of_parse parsed, response_eq]
  cases taken : Request.ofValue name args with
  | ok request => exact ⟨_, request.parse_text_answer held, rfl, rfl⟩
  | error e => exact ⟨rfl, rfl, rfl⟩

/-- Years whose order as numbers is not their order as texts. -/
def yearsSample : List Registration :=
  [⟨10, "A", .male, "Alex", 1⟩, ⟨2, "A", .male, "Alex", 3⟩, ⟨-1, "B", .female, "Alex", 2⟩]

/-- What a call prints for them, the years as numbers in order. -/
def yearsText : String :=
  "\x7b\"name\":\"Alex\",\"yearly_counts\":\x7b\"-1\":2,\"2\":3,\"10\":1\x7d\x7d"

/-- A message about those years is answered with the value of that text. -/
theorem response_of_call_yearsSample :
    (Registry.ofList yearsSample).registrations.length < UInt64.size ∧
    Json.parse "[\"Alex\"]" = .ok (.array [.string "Alex"]) ∧
    call (Registry.ofList yearsSample) "name_year_count" "[\"Alex\"]" = .ok yearsText ∧
    ∃ result, Json.parse yearsText = .ok result ∧
      response (Registry.ofList yearsSample)
        ⟨.int 7, "name_year_count", .array [.string "Alex"]⟩ = ⟨.int 7, .ok result⟩ ∧
      (response (Registry.ofList yearsSample)
        ⟨.int 7, "name_year_count", .array [.string "Alex"]⟩).toJson =
          .object [("id", .int 7), ("result", result)] := by
  have held : (Registry.ofList yearsSample).registrations.length < UInt64.size := by decide
  have parsed : Json.parse "[\"Alex\"]" = .ok (.array [.string "Alex"]) := rfl
  have printed : call (Registry.ofList yearsSample) "name_year_count" "[\"Alex\"]" =
      .ok yearsText := by decide +kernel
  have agreed := response_of_call held parsed "name_year_count" (.int 7)
  rw [printed] at agreed
  exact ⟨held, parsed, printed, agreed.1⟩

end GivenNames
