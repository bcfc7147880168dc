import GivenNames.Service

/-!
Lines put into a sink that may fail.

A limit allows a number of bytes or of flushes, or any number. Main statements, over the lines that
are put one after the other: the sink is left with the frames that are begun, one more than there
may be flushes, cut off where its room ends (`written_putLines`); the putting stops for want of room
if those frames do not fit, and otherwise for want of a flush if there are more frames than flushes
(`stop_putLines`).
-/

namespace GivenNames

/-! ### Limits -/

section Limits

variable {α : Type}

/-- As much of a list as a limit allows. -/
def upTo (limit : Option Nat) (xs : List α) : List α :=
  match limit with
  | none => xs
  | some most => xs.take most

/-- Whether a limit allows a number. -/
def Allows (limit : Option Nat) (n : Nat) : Prop :=
  ∀ most ∈ limit, n ≤ most

instance (limit : Option Nat) (n : Nat) : Decidable (Allows limit n) :=
  inferInstanceAs (Decidable (∀ most ∈ limit, n ≤ most))

/-- What a limit leaves after a number was used. -/
def leftOf (limit : Option Nat) (used : Nat) : Option Nat :=
  limit.map (· - used)

@[simp] theorem allows_none (n : Nat) : Allows none n :=
  fun _ here => nomatch here

@[simp] theorem allows_some {most n : Nat} : Allows (some most) n ↔ n ≤ most := by
  simp [Allows]

theorem Allows.mono {limit : Option Nat} {m n : Nat} (allowed : Allows limit n) (less : m ≤ n) :
    Allows limit m :=
  fun most here => Nat.le_trans less (allowed most here)

theorem allows_zero (limit : Option Nat) : Allows limit 0 :=
  fun most _ => Nat.zero_le most

@[simp] theorem upTo_nil (limit : Option Nat) : upTo limit ([] : List α) = [] := by
  cases limit <;> simp [upTo]

theorem upTo_of_allows {limit : Option Nat} {xs : List α} (enough : Allows limit xs.length) :
    upTo limit xs = xs := by
  cases limit with
  | none => rfl
  | some most => exact List.take_of_length_le (allows_some.mp enough)

theorem allows_add {limit : Option Nat} {used : Nat} (taken : Allows limit used) (n : Nat) :
    Allows limit (used + n) ↔ Allows (leftOf limit used) n := by
  cases limit with
  | none => simp [leftOf]
  | some most =>
      have within := allows_some.mp taken
      simp only [leftOf, Option.map_some, allows_some]
      omega

theorem upTo_append {limit : Option Nat} {xs : List α} (taken : Allows limit xs.length)
    (ys : List α) : upTo limit (xs ++ ys) = xs ++ upTo (leftOf limit xs.length) ys := by
  cases limit with
  | none => rfl
  | some most =>
      simp only [upTo, leftOf, Option.map_some]
      rw [List.take_append, List.take_of_length_le (allows_some.mp taken)]

theorem upTo_append_of_not_allows {limit : Option Nat} {xs : List α}
    (short : ¬Allows limit xs.length) (ys : List α) : upTo limit (xs ++ ys) = upTo limit xs := by
  cases limit with
  | none => exact absurd (allows_none _) short
  | some most =>
      have less : most < xs.length :=
        Nat.lt_of_not_le fun enough => short (allows_some.mpr enough)
      exact List.take_append_of_le_length (Nat.le_of_lt less)

end Limits

/-! ### The sink -/

namespace Sink

/-- A line as it is sent, with its line feed. -/
def frame (text : String) : Text.Bytes :=
  Text.encode text ++ [Text.lineFeed]

/-- Puts lines one after the other, up to the first that is not taken. -/
def putLines (sink : Sink) : List String → Sink × Option Stop
  | [] => (sink, none)
  | text :: texts =>
    match sink.putLine text with
    | (sink, some stop) => (sink, some stop)
    | (sink, none) => sink.putLines texts

/-- The frames that are begun: one more than there may be flushes. -/
def begun (flushes : Option Nat) (frames : List Text.Bytes) : List Text.Bytes :=
  upTo (flushes.map (· + 1)) frames

/-- The sink after bytes were written and flushed. -/
def after (sink : Sink) (bytes : Text.Bytes) : Sink :=
  ⟨sink.written ++ bytes, leftOf sink.room bytes.length, leftOf sink.flushes 1⟩

variable {sink : Sink} {bytes : Text.Bytes} {text : String}

theorem write_of_allows (fits : Allows sink.room bytes.length) :
    sink.write bytes =
      (⟨sink.written ++ bytes, leftOf sink.room bytes.length, sink.flushes⟩, true) := by
  obtain ⟨written, room, flushes⟩ := sink
  cases room with
  | none => rfl
  | some room =>
      have enough := allows_some.mp fits
      simp [Sink.write, leftOf, List.take_of_length_le enough, enough]

theorem write_of_not_allows (short : ¬Allows sink.room bytes.length) :
    (sink.write bytes).1.written = sink.written ++ upTo sink.room bytes ∧
      (sink.write bytes).2 = false := by
  obtain ⟨written, room, flushes⟩ := sink
  cases room with
  | none => exact absurd (allows_none _) short
  | some room =>
      have less : room < bytes.length :=
        Nat.lt_of_not_le fun enough => short (allows_some.mpr enough)
      simp [Sink.write, upTo, less]

theorem flush_of_allows (allowed : Allows sink.flushes 1) :
    sink.flush = ({ sink with flushes := leftOf sink.flushes 1 }, true) := by
  obtain ⟨written, room, _ | _ | flushes⟩ := sink
  · rfl
  · exact absurd (allows_some.mp allowed) (by decide)
  · rfl

theorem flush_of_not_allows (refused : ¬Allows sink.flushes 1) : sink.flush = (sink, false) := by
  obtain ⟨written, room, _ | _ | flushes⟩ := sink
  · exact absurd (allows_none 1) refused
  · rfl
  · exact absurd (allows_some.mpr (by omega)) refused

/-- A line for which there is no room is cut off. -/
theorem putLine_full (short : ¬Allows sink.room (frame text).length) :
    (sink.putLine text).1.written = sink.written ++ upTo sink.room (frame text) ∧
      (sink.putLine text).2 = some .full := by
  obtain ⟨left, cut⟩ := write_of_not_allows short
  unfold putLine
  split
  · rename_i sink' same
    rw [frame, same] at left
    exact ⟨left, rfl⟩
  · rename_i sink' same
    rw [frame, same] at cut
    contradiction

/-- A line whose flush is refused has been written. -/
theorem putLine_refused (fits : Allows sink.room (frame text).length)
    (refused : ¬Allows sink.flushes 1) :
    (sink.putLine text).1.written = sink.written ++ frame text ∧
      (sink.putLine text).2 = some .flushRefused := by
  have sent := write_of_allows fits
  have flushed : (sink.write (frame text)).1.flush = ((sink.write (frame text)).1, false) :=
    flush_of_not_allows (by rwa [sent])
  rw [sent] at flushed
  simp only [frame] at sent flushed
  simp only [putLine, sent, flushed, frame, and_self]

theorem putLine_taken (fits : Allows sink.room (frame text).length)
    (allowed : Allows sink.flushes 1) : sink.putLine text = (sink.after (frame text), none) := by
  have sent := write_of_allows fits
  have allowed' : Allows (sink.write (frame text)).1.flushes 1 := by rwa [sent]
  have flushed := flush_of_allows allowed'
  rw [sent] at flushed
  simp only [frame] at sent flushed
  simp only [putLine, sent, flushed]
  rfl

/-! ### Lines one after the other -/

theorem begun_cons (flushes : Option Nat) (frame : Text.Bytes) (frames : List Text.Bytes) :
    begun flushes (frame :: frames) =
      frame :: if Allows flushes 1 then begun (leftOf flushes 1) frames else [] := by
  rcases flushes with _ | _ | flushes <;> simp [begun, upTo, leftOf]

@[simp] theorem begun_nil (flushes : Option Nat) : begun flushes [] = [] :=
  upTo_nil _

theorem begun_of_allows {flushes : Option Nat} {frames : List Text.Bytes}
    (enough : Allows flushes frames.length) : begun flushes frames = frames := by
  refine upTo_of_allows ?_
  cases flushes with
  | none => exact allows_none _
  | some most => exact allows_some.mpr (Nat.le_succ_of_le (allows_some.mp enough))

theorem putLines_of_stop {stop : Stop} (stopped : (sink.putLine text).2 = some stop)
    (texts : List String) :
    sink.putLines (text :: texts) = ((sink.putLine text).1, some stop) := by
  rw [putLines]
  split
  · rename_i sink' stop' same
    rw [same] at stopped ⊢
    cases stopped
    rfl
  · rename_i sink' same
    rw [same] at stopped
    contradiction

theorem putLines_of_taken (fits : Allows sink.room (frame text).length)
    (allowed : Allows sink.flushes 1) (texts : List String) :
    sink.putLines (text :: texts) = (sink.after (frame text)).putLines texts := by
  rw [putLines, putLine_taken fits allowed]

/-- What is written: the frames that are begun, as far as there is room. -/
theorem written_putLines (sink : Sink) (texts : List String) :
    (sink.putLines texts).1.written =
      sink.written ++ upTo sink.room (begun sink.flushes (texts.map frame)).flatten := by
  induction texts generalizing sink with
  | nil => simp [putLines]
  | cons text texts ih =>
      rw [List.map_cons, begun_cons, List.flatten_cons]
      by_cases fits : Allows sink.room (frame text).length
      · rw [upTo_append fits]
        by_cases allowed : Allows sink.flushes 1
        · simp [putLines_of_taken fits allowed, ih, after, allowed]
        · obtain ⟨left, stopped⟩ := putLine_refused fits allowed
          simp [putLines_of_stop stopped, left, allowed]
      · obtain ⟨left, stopped⟩ := putLine_full fits
        rw [upTo_append_of_not_allows fits]
        simp [putLines_of_stop stopped, left]

/-- Why the putting of lines stops: there is no room for the frames that are begun, or else there
are not enough flushes for all frames. -/
theorem stop_putLines (sink : Sink) (texts : List String) :
    (sink.putLines texts).2 =
      if Allows sink.room (begun sink.flushes (texts.map frame)).flatten.length then
        if Allows sink.flushes texts.length then none else some .flushRefused
      else some .full := by
  induction texts generalizing sink with
  | nil => simp [putLines, allows_zero]
  | cons text texts ih =>
      rw [List.map_cons, begun_cons, List.flatten_cons, List.length_append, List.length_cons,
        Nat.add_comm texts.length 1]
      by_cases fits : Allows sink.room (frame text).length
      · simp only [allows_add fits]
        by_cases allowed : Allows sink.flushes 1
        · simp [putLines_of_taken fits allowed, ih, after, allowed, allows_add allowed]
        · have fewer : ¬Allows sink.flushes (1 + texts.length) := fun more =>
            allowed (more.mono (Nat.le_add_right 1 _))
          simp [putLines_of_stop (putLine_refused fits allowed).2, allowed, fewer, allows_zero]
      · have less (n : Nat) : ¬Allows sink.room ((frame text).length + n) := fun more =>
          fits (more.mono (Nat.le_add_right _ n))
        simp [putLines_of_stop (putLine_full fits).2, less]

end Sink

end GivenNames
