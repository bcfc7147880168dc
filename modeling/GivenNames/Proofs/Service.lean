import GivenNames.Proofs.Json.Grammar
import GivenNames.Proofs.Sink
import GivenNames.Proofs.Text.Lines

/-!
What the service writes, and how it ends.

Every line of the input that is not blank is a message with one reply, which depends on that line
alone and is one line of JSON. Main statement: the sink is left with the replies in order, cut off
where its room ends and after the reply whose flush it refuses; a run ends well exactly when the
sink takes all of it, and otherwise says which of the two limits was reached first
(`serve_encode`). What the loop does with any bytes, text or not, is one law (`serveLines_eq`).
-/

namespace GivenNames

open Json (Grammar.Value Grammar.Str Grammar.object stringChars)

/-! ### Replies -/

/-- A response in the grammar of JSON: an object with the id, and with either a result or the words
of an error. -/
inductive IsResponse : List Char → Prop
  | result {id value : List Char} (identified : Grammar.Value id) (answered : Grammar.Value value) :
      IsResponse (Grammar.object [(stringChars "id", id), (stringChars "result", value)])
  | error {id words : List Char} (identified : Grammar.Value id) (refused : Grammar.Str words) :
      IsResponse (Grammar.object [(stringChars "id", id), (stringChars "error", words)])

/-- A reply is the text of a response and a line feed, and that is its only byte below the space. -/
def IsReply (bytes : Text.Bytes) : Prop :=
  ∃ text, IsResponse text.toList ∧ (∀ b ∈ Text.encode text, 0x20 ≤ b.toNat) ∧
    bytes = Text.encode text ++ [Text.lineFeed]

theorem Response.isResponse (r : Response) : IsResponse r.text.toList := by
  rw [Response.text, Json.text, String.toList_ofList, Response.toJson]
  split
  · rw [Json.Grammar.chars_object]
    exact .result (Json.Grammar.value_chars _) (Json.Grammar.value_chars _)
  · rw [Json.Grammar.chars_object]
    exact .error (Json.Grammar.value_chars _) (Json.Grammar.str_stringChars _)

theorem high_of_mem_encode {text : String} (printable : Json.Grammar.Printable text.toList)
    {b : UInt8} (here : b ∈ Text.encode text) : 0x20 ≤ b.toNat := by
  refine Nat.le_of_not_lt fun low => ?_
  rw [Text.encode_eq_flatMap] at here
  obtain ⟨c, inside, same⟩ := Text.mem_encodeChars_ascii (by omega) here
  have high := printable c inside
  omega

theorem Response.isReply (r : Response) : IsReply (Sink.frame r.text) := by
  refine ⟨r.text, r.isResponse, fun b here => high_of_mem_encode ?_ here, rfl⟩
  rw [Response.text, Json.text, String.toList_ofList]
  exact (Json.Grammar.value_chars _).printable

/-! ### Messages -/

/-- The messages of a text: its lines, but for those of which trimming leaves nothing. -/
def messages (input : String) : List String :=
  (Text.textLines input).filter fun line => Text.trim line ≠ ""

/-- The text of the response to a message. -/
def responseText (registry : Registry) (message : String) : String :=
  (Message.answerText registry message).1.text

/-- The reply to a message. -/
def reply (registry : Registry) (message : String) : Text.Bytes :=
  Sink.frame (responseText registry message)

namespace Service

/-- Whether a line spells a text. -/
def isText (line : Text.Bytes) : Bool :=
  (Text.decode? line).isSome

/-- The texts of the lines in front of the first one that spells none. -/
def readTexts (lines : List Text.Bytes) : List String :=
  (lines.takeWhile isText).filterMap Text.decode?

theorem answerLine_of_decode? (registry : Registry) {line : Text.Bytes} {text : String}
    (spelled : Text.decode? line = some text) :
    answerLine registry line =
      .ok (if Text.trim text = "" then none else some (Message.answerText registry text)) := by
  simp only [answerLine, spelled, Text.isBlankText_eq_true_iff]
  split <;> rfl

/-- Serving lines puts the responses to the messages in front of the first line that is not text,
one after the other; that line ends the service if the sink has not. -/
theorem serveLines_eq (registry : Registry) (lines : List Text.Bytes) (sink : Sink) :
    let outcome := serveLines registry lines sink
    let put := sink.putLines
      (((readTexts lines).filter fun line => Text.trim line ≠ "").map (responseText registry))
    outcome.sink = put.1 ∧
      outcome.stop = put.2.or (if ∀ line ∈ lines, isText line then none else some .notText) := by
  induction lines generalizing sink with
  | nil => exact ⟨rfl, rfl⟩
  | cons line lines ih =>
      cases spelled : Text.decode? line with
      | none =>
          have unread : readTexts (line :: lines) = [] := by simp [readTexts, isText, spelled]
          simp [unread, serveLines, answerLine, spelled, Sink.putLines, isText]
      | some text =>
          have read : readTexts (line :: lines) = text :: readTexts lines := by
            simp [readTexts, isText, spelled]
          have here : isText line = true := by simp [isText, spelled]
          simp only [read, List.forall_mem_cons, here, true_and, serveLines,
            answerLine_of_decode? registry spelled]
          by_cases blank : Text.trim text = ""
          · simpa [blank] using ih sink
          · have kept : (text :: readTexts lines).filter (fun line => Text.trim line ≠ "") =
                text :: (readTexts lines).filter fun line => Text.trim line ≠ "" := by simp [blank]
            rw [kept]
            simp only [if_neg blank, List.map_cons, Sink.putLines, responseText]
            generalize sink.putLine (Message.answerText registry text).1.text = put
            obtain ⟨next, _ | stop⟩ := put
            · exact ih next
            · exact ⟨rfl, rfl⟩

/-- Lines of text are all read. -/
theorem readTexts_encode (lines : List String) : readTexts (lines.map Text.encode) = lines := by
  induction lines with
  | nil => rfl
  | cons line lines ih =>
      simpa [readTexts, isText, Text.decode?_encode] using ih

/-- Serving lines of text puts the responses to the messages among them, one after the other. -/
theorem serveLines_encode (registry : Registry) (lines : List String) (sink : Sink) :
    let outcome := serveLines registry (lines.map Text.encode) sink
    let put := sink.putLines
      ((lines.filter fun line => Text.trim line ≠ "").map (responseText registry))
    outcome.sink = put.1 ∧ outcome.stop = put.2 := by
  have served := serveLines_eq registry (lines.map Text.encode) sink
  have text : ∀ line ∈ lines.map Text.encode, isText line := by
    simp [isText, Text.decode?_encode]
  rw [readTexts_encode, if_pos text] at served
  exact ⟨served.1, served.2.trans Option.or_none⟩

theorem frames_responseText (registry : Registry) (input : String) :
    ((messages input).map (responseText registry)).map Sink.frame =
      (messages input).map (reply registry) :=
  List.map_map

theorem written_serve (registry : Registry) (input : String) (room flushes : Option Nat) :
    (serve registry (Text.encode input) ⟨[], room, flushes⟩).sink.written =
      upTo room (Sink.begun flushes ((messages input).map (reply registry))).flatten := by
  have put := serveLines_encode registry (Text.textLines input) ⟨[], room, flushes⟩
  have left := Sink.written_putLines ⟨[], room, flushes⟩
    ((messages input).map (responseText registry))
  rw [frames_responseText] at left
  rw [← Text.lines_encode] at put
  exact (congrArg Sink.written put.1).trans left

theorem stop_serve (registry : Registry) (input : String) (room flushes : Option Nat) :
    (serve registry (Text.encode input) ⟨[], room, flushes⟩).stop =
      if Allows room (Sink.begun flushes ((messages input).map (reply registry))).flatten.length
      then
        if Allows flushes ((messages input).map (reply registry)).length then none
        else some .flushRefused
      else some .full := by
  have put := serveLines_encode registry (Text.textLines input) ⟨[], room, flushes⟩
  have left := Sink.stop_putLines ⟨[], room, flushes⟩
    ((messages input).map (responseText registry))
  rw [frames_responseText, List.length_map] at left
  rw [← Text.lines_encode] at put
  rw [List.length_map]
  exact put.2.trans left

/-- What was being done when a run ended early. -/
def Outcome.undone (outcome : Outcome) : Option String :=
  outcome.stop.bind fun stop => stop.causes.head?

/-- Every message of a text is given one reply, which depends on nothing but the message. The sink
is left with the replies in order up to the one whose flush it refuses, as far as there is room. The
run ends well exactly when there is room and there are flushes for all replies; otherwise it ends
writing where the room is used up first, and flushing where the flushes are. -/
theorem serve_encode (registry : Registry) (input : String) (room flushes : Option Nat) :
    let replies := (messages input).map (reply registry)
    let begun := Sink.begun flushes replies
    let outcome := serve registry (Text.encode input) ⟨[], room, flushes⟩
    (∀ r ∈ replies, IsReply r) ∧
      outcome.sink.written = upTo room begun.flatten ∧
      (outcome.stop = none ↔
        Allows room replies.flatten.length ∧ Allows flushes replies.length) ∧
      (outcome.undone = some "writing response" ↔ ¬Allows room begun.flatten.length) ∧
      (outcome.undone = some "flushing response" ↔
        Allows room begun.flatten.length ∧ ¬Allows flushes replies.length) := by
  intro replies begun outcome
  have written : outcome.sink.written = upTo room begun.flatten :=
    written_serve registry input room flushes
  have stopped : outcome.stop =
      if Allows room begun.flatten.length then
        if Allows flushes replies.length then none else some .flushRefused
      else some .full :=
    stop_serve registry input room flushes
  have undone : outcome.undone =
      if Allows room begun.flatten.length then
        if Allows flushes replies.length then none else some "flushing response"
      else some "writing response" := by
    rw [Outcome.undone, stopped]
    split
    · split <;> rfl
    · rfl
  refine ⟨?_, written, ?_, ?_, ?_⟩
  · intro r here
    obtain ⟨message, _, rfl⟩ := List.mem_map.mp here
    exact Response.isReply _
  · rw [stopped]
    by_cases enough : Allows flushes replies.length
    · have all : begun = replies := Sink.begun_of_allows enough
      simp [all, enough]
    · simp only [enough, if_false, and_false, iff_false]
      split <;> simp
  · rw [undone]
    by_cases enough : Allows flushes replies.length <;> simp [enough]
  · rw [undone]
    by_cases enough : Allows flushes replies.length <;> simp [enough]

end Service

end GivenNames
