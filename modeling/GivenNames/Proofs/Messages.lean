import GivenNames.Proofs.Calls
import GivenNames.Proofs.Json.Members

/-!
Messages as texts.

The members of a message may stand in any order, with blanks between the tokens, and the id may be
any value that text carries without loss. Main statement: such a text is answered as the message it
stands for, under exactly its id, and left out arguments are answered as null and as an empty list
(`answerText_of_spells`). The form takes the members one by one, each for its own part of the
message, so their order makes no difference (`takes_members`).
-/

namespace GivenNames

open Json (Blank Form Plain Written)
open Json.Form (Entry)

namespace Message

/-- The members of a message: its id, its function, and its arguments unless they are left out. -/
def members (id : Json) (function : String) (args : Option Json) : List (String × Json) :=
  [("id", id), ("fn", .string function)] ++ args.toList.map fun v => ("args", v)

/-- The members of a message are taken as it, in whatever order they stand. -/
theorem takes_members {n : Nat} {v : Json} {name : String} {given : Option Json}
    {ms : List (String × Json)} (order : ms.Perm (members v name given)) :
    form.Takes (n + 1) (.object ms) ⟨v.sorted, name, (given.map Json.sorted).getD .null⟩ := by
  unfold form
  -- Arguments that are left out have no entry.
  cases given with
  | none =>
      refine Form.takes_record_of_perm
        [.putting "id" v v.sorted (by rfl), .putting "fn" (.string name) name (by rfl)]
        ⟨?_, ?_⟩ ?_ ?_ order rfl
      · simp [Entry.putting, Entry.name, Json.Slot.of]
      · simp [Entry.putting, Entry.name, Json.Slot.of]
      · simp [Entry.Apart, Entry.putting]
      · simp only [List.forall_mem_cons]
        exact ⟨Entry.takes_putting Form.takes_value, Entry.takes_putting Form.takes_string, by simp⟩
  | some w =>
      refine Form.takes_record_of_perm
        [.putting "id" v v.sorted (by rfl), .putting "fn" (.string name) name (by rfl),
          .putting "args" w w.sorted (by rfl)] ⟨?_, ?_⟩ ?_ ?_ order rfl
      · simp [Entry.putting, Entry.name, Json.Slot.of]
      · simp [Entry.putting, Entry.name, Json.Slot.of]
      · simp [Entry.Apart, Entry.putting]
      · simp only [List.forall_mem_cons]
        exact ⟨Entry.takes_putting Form.takes_value, Entry.takes_putting Form.takes_string,
          Entry.takes_putting Form.takes_value, by simp⟩

/-- Left out arguments, null and an empty list are answered alike. -/
theorem response_of_no_arguments (registry : Registry) (id : Json) (name : String) :
    response registry ⟨id, name, .null⟩ = response registry ⟨id, name, .array []⟩ := by
  have same : Request.ofValue name .null = Request.ofValue name (.array []) := by
    unfold Request.ofValue
    cases Function.ofName? name <;> rfl
  rw [response_eq, response_eq, same]

/-- A response carries the id of its message, whether there is a result or an error. -/
theorem response_toJson (registry : Registry) (m : Message) :
    (response registry m).id = m.id ∧
      ∃ last, (response registry m).toJson = .object [("id", m.id), last] := by
  rw [response_eq]
  cases Request.ofValue m.function m.args with
  | ok request => exact ⟨rfl, _, rfl⟩
  | error e => exact ⟨rfl, _, rfl⟩

/-- The text of an object with the members of a message, in whatever order they stand and with
blanks anywhere between the tokens, is answered as that message, under exactly its id. Without
arguments it is answered as with null and as with an empty list. -/
theorem answerText_of_spells (registry : Registry) {i v : Json} {name text : String}
    {given : Option Json} {ms : List (String × Json)} (stands : v.sorted = i)
    (order : ms.Perm (members v name given)) (spells : Json.Spells text (.object ms)) :
    answerText registry text =
        answer registry ⟨i, name, (given.map Json.sorted).getD .null⟩ ∧
      (answerText registry text).1.id = i ∧
      (∃ last, (answerText registry text).1.toJson = .object [("id", i), last]) ∧
      (given = none → ∀ args ∈ [Json.null, .array []],
        (answerText registry text).1 = response registry ⟨i, name, args⟩) := by
  subst stands
  obtain ⟨b, cs, b', blank, written, blank', rfl⟩ := spells
  have parsed := Form.parse_of_takes (takes_members (n := 126) order) blank written blank'
  have answered : answerText registry (String.ofList (b ++ cs ++ b')) =
      answer registry ⟨v.sorted, name, (given.map Json.sorted).getD .null⟩ := by
    rw [answerText, parsed]
  obtain ⟨id, last⟩ :=
    response_toJson registry ⟨v.sorted, name, (given.map Json.sorted).getD .null⟩
  rw [answered]
  refine ⟨rfl, id, last, ?_⟩
  rintro rfl args here
  rcases List.mem_pair.mp here with rfl | rfl
  · rfl
  · exact response_of_no_arguments registry v.sorted name

/-- An id whose members are not in key order, with the integers at the ends of the words. -/
def nestedId : Json :=
  .object [("b", .int 18446744073709551615), ("a", .array [.int (-9223372036854775808), .null])]

/-- Members of a message under that id, the arguments first. -/
def turnedMembers : List (String × Json) :=
  [("args", .array [.string "Alex"]), ("id", nestedId), ("fn", .string "name_year_count")]

/-- These members as a text, with blanks between its tokens. -/
def turnedText : String :=
  " \x7b \"args\" : [\"Alex\"],\n\t\"id\":\x7b\"b\":18446744073709551615,"
    ++ "\"a\":[-9223372036854775808,null]\x7d , \"fn\": \"name_year_count\"\x7d\t"

/-- Members of a message without arguments that calls no function. -/
def bareMembers : List (String × Json) :=
  [("fn", .string "name_counts"), ("id", .int 7)]

theorem spells_turnedText : Json.Spells turnedText (.object turnedMembers) := by
  have args : Plain 126 (.array [.string "Alex"]) :=
    .array (List.forall_mem_singleton.mpr (.string _))
  have id : Plain 126 nestedId := by
    refine .object (List.forall_mem_cons.mpr ⟨.int (by decide), ?_⟩)
    refine List.forall_mem_singleton.mpr (.array (List.forall_mem_cons.mpr ⟨.int (by decide), ?_⟩))
    exact List.forall_mem_singleton.mpr .null
  have empty := Json.blank_nil
  have space : Blank [' '] := by simp [Blank, Json.isSpace]
  have tab : Blank ['\t'] := by simp [Blank, Json.isSpace]
  have line : Blank ['\n', '\t'] := by simp [Blank, Json.isSpace]
  have third : Written 126 (.members false (turnedMembers.drop 2)) _ :=
    .member (.next space space) empty space (.string "name_year_count") (.noMember empty)
  have second : Written 126 (.members false (turnedMembers.drop 1)) _ :=
    .member (.next empty line) empty empty id.written third
  have first : Written 126 (.members true turnedMembers) _ :=
    .member (.first space) space space args.written second
  exact ⟨_, _, _, space, .object first, tab, by decide +kernel⟩

/-- That text is answered as the message, and the id of the response is the id that was sent. The
message without arguments is rejected as it is with an empty list, under its id. -/
theorem answerText_of_spells_turnedText :
    turnedMembers.Perm (members nestedId "name_year_count" (some (.array [.string "Alex"]))) ∧
    Json.Spells turnedText (.object turnedMembers) ∧
    answerText (Registry.ofList yearsSample) turnedText =
      answer (Registry.ofList yearsSample)
        ⟨nestedId.sorted, "name_year_count", .array [.string "Alex"]⟩ ∧
    (answerText (Registry.ofList yearsSample) turnedText).1.id =
      .object [("a", .array [.int (-9223372036854775808), .null]),
        ("b", .int 18446744073709551615)] ∧
    (answerText (Registry.ofList yearsSample) (Json.object bareMembers).text).1 =
      response (Registry.ofList yearsSample) ⟨.int 7, "name_counts", .array []⟩ := by
  have order : turnedMembers.Perm
      (members nestedId "name_year_count" (some (.array [.string "Alex"]))) :=
    (List.perm_append_singleton _ _).symm
  have stands : nestedId.sorted =
      .object [("a", .array [.int (-9223372036854775808), .null]),
        ("b", .int 18446744073709551615)] := rfl
  obtain ⟨answered, id, -, -⟩ :=
    answerText_of_spells (Registry.ofList yearsSample) stands order spells_turnedText
  have bare : Plain Json.maxNesting (.object bareMembers) :=
    .object (List.forall_mem_cons.mpr ⟨.string _, List.forall_mem_singleton.mpr (.int (by decide))⟩)
  have swapped : bareMembers.Perm (members (.int 7) "name_counts" none) := .swap _ _ _
  obtain ⟨-, -, -, rejected⟩ :=
    answerText_of_spells (Registry.ofList yearsSample) rfl swapped (Json.spells_text bare)
  rw [stands]
  exact ⟨order, spells_turnedText, answered, id, rejected rfl _ (by simp)⟩

end Message

end GivenNames
