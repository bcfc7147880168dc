import GivenNames.Proofs.Service
import Mathlib.Data.List.Forall2

/-!
Lines that cannot be read.

A line that is text but no message is answered with an error, and the lines after it are served. A
line that is not text at all is treated otherwise: it is not answered, and nothing after it is. Main
statement: over a sink that takes everything, the service answers each solid line in front of the
first line that is not text, in order, and then ends early exactly if there is such a line; so every
line has its response exactly when all of them are text (`serve_unlimited`).
-/

namespace GivenNames.Service

open Text (Bytes)

/-! ### Responses to lines -/

/-- What answers a line: the response to the message that it spells, or an error where it spells
none, be it because it is not text. -/
inductive RespondsTo (registry : Registry) (line : Bytes) : Response → Prop
  | message {text : String} {m : Message} (spelled : Text.decode? line = some text)
      (taken : Message.form.parse text = .ok m) : RespondsTo registry line (m.response registry)
  | unreadable {r : Response} {refusal : Refusal}
      (unread : ∀ text ∈ Text.decode? line, ∀ m, Message.form.parse text ≠ .ok m)
      (refused : r.outcome = .error refusal) : RespondsTo registry line r

/-- A line is solid unless it spells a text of which trimming leaves nothing. -/
def IsSolid (line : Bytes) : Prop :=
  ∀ text ∈ Text.decode? line, Text.trim text ≠ ""

instance (line : Bytes) : Decidable (IsSolid line) :=
  inferInstanceAs (Decidable (∀ text ∈ Text.decode? line, Text.trim text ≠ ""))

/-- The bytes are a response line for each solid line, in order. -/
def Answers (registry : Registry) (lines : List Bytes) (written : Bytes) : Prop :=
  ∃ responses,
    List.Forall₂ (RespondsTo registry) (lines.filter fun line => IsSolid line) responses ∧
      written = (responses.map fun r => Sink.frame r.text).flatten

/-- Over a sink that takes everything, the service ends with its input and has answered every
line. -/
def AnswersEvery (registry : Registry) (input : Bytes) : Prop :=
  (serve registry input .unlimited).stop = none ∧
    Answers registry (Text.lines input) (serve registry input .unlimited).sink.written

/-! ### What the service writes -/

variable {registry : Registry} {lines : List Bytes}

theorem respondsTo_answerText {line : Bytes} {text : String}
    (spelled : Text.decode? line = some text) :
    RespondsTo registry line (Message.answerText registry text).1 := by
  unfold Message.answerText
  cases taken : Message.form.parse text with
  | ok m => exact .message spelled taken
  | error fault =>
      refine .unreadable (fun other here m => ?_) rfl
      rw [spelled] at here
      cases here
      rw [taken]
      exact nofun

/-- The messages among lines of text are answered line by line. -/
theorem respondsTo_messages (text : ∀ line ∈ lines, isText line) :
    List.Forall₂ (RespondsTo registry) (lines.filter fun line => IsSolid line)
      (((lines.filterMap Text.decode?).filter fun line => Text.trim line ≠ "").map
        fun line => (Message.answerText registry line).1) := by
  induction lines with
  | nil => exact .nil
  | cons line lines ih =>
      obtain ⟨here, later⟩ := List.forall_mem_cons.mp text
      obtain ⟨spelling, spelled⟩ := Option.isSome_iff_exists.mp here
      by_cases blank : Text.trim spelling = ""
      · have passed : ¬ IsSolid line := fun solid => solid spelling spelled blank
        simpa [passed, spelled, blank] using ih later
      · have solid : IsSolid line := by simpa [IsSolid, spelled] using blank
        simpa [solid, spelled, blank] using
          List.Forall₂.cons (respondsTo_answerText spelled) (ih later)

theorem written_unlimited (registry : Registry) (input : Bytes) :
    Answers registry ((Text.lines input).takeWhile isText)
      (serve registry input .unlimited).sink.written := by
  have text : ∀ line ∈ (Text.lines input).takeWhile isText, isText line :=
    fun _ here => List.mem_takeWhile_imp here
  refine ⟨_, respondsTo_messages text, ?_⟩
  rw [serve, (serveLines_eq registry (Text.lines input) .unlimited).1, Sink.written_putLines]
  simp only [Sink.unlimited, Sink.begun, Option.map_none, upTo, List.nil_append, List.map_map]
  rfl

theorem stop_unlimited (registry : Registry) (input : Bytes) :
    (serve registry input .unlimited).stop =
      if ∀ line ∈ Text.lines input, isText line then none else some .notText := by
  rw [serve, (serveLines_eq registry (Text.lines input) .unlimited).2, Sink.stop_putLines]
  simp [Sink.unlimited]

/-- The service answers each solid line in front of the first line that is not text, in order: with
the response to its message, or with an error where it is no message. It ends early exactly if there
is a line that is not text; so it answers every line exactly when all of them are text. -/
theorem serve_unlimited (registry : Registry) (input : Bytes) :
    Answers registry ((Text.lines input).takeWhile isText)
        (serve registry input .unlimited).sink.written ∧
      (serve registry input .unlimited).stop =
        (if ∀ line ∈ Text.lines input, isText line then none else some .notText) ∧
      (AnswersEvery registry input ↔ ∀ line ∈ Text.lines input, isText line) := by
  have written := written_unlimited registry input
  have stopped := stop_unlimited registry input
  refine ⟨written, stopped, ?_, ?_⟩
  · rintro ⟨ended, -⟩
    by_contra stray
    rw [stopped, if_neg stray] at ended
    cases ended
  · intro text
    rw [List.takeWhile_eq_self_iff.mpr text] at written
    exact ⟨stopped.trans (if_pos text), written⟩

/-- A line that is not text, in front of a message. -/
def strayInput : Bytes :=
  [0xff, Text.lineFeed] ++ Text.encode "\x7b\"id\":1,\"fn\":\"name_count\"\x7d" ++ [Text.lineFeed]

/-- Neither of the two lines is answered: the service ends at the first one. -/
theorem not_answersEvery_strayInput :
    (serve (Registry.ofList []) strayInput .unlimited).stop = some .notText ∧
      (serve (Registry.ofList []) strayInput .unlimited).sink.written = [] ∧
      ¬ AnswersEvery (Registry.ofList []) strayInput := by
  have stopped : (serve (Registry.ofList []) strayInput .unlimited).stop = some .notText := by
    decide +kernel
  refine ⟨stopped, by decide +kernel, ?_⟩
  rintro ⟨ended, -⟩
  rw [stopped] at ended
  cases ended

end GivenNames.Service
