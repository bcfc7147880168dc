import GivenNames.Proofs.Source.Tables

/-!
The lines on which records begin.

A fault of a delimited table names a line that is counted from the records before it, one line for
each. An editor counts line breaks, of which there are more: empty lines between records, and line
breaks within quotes. Each line break ends a record or is one of these (`lineBreaks_eq`). A record
begins at one place of a file (`exists_begins`, `Begins.unique`), and what stands there is read as
that record (`Begins.getElem?_rows`). Main statement: the line that a fault names falls short of the
one on which the record begins by the number of empty lines and of quoted line breaks before it, so
it is right exactly if there are none (`Load.line_of_refused`).
-/

namespace GivenNames

open Text (Bytes carriageReturn lineFeed)

/-! ### Lines of a file -/

namespace Text

/-- Whether a byte is a line break, by whether a carriage return stands before it; a line feed after
one belongs to the same line break. -/
def breaksLine (returned : Bool) (b : UInt8) : Bool :=
  b == carriageReturn || (b == lineFeed && !returned)

/-- The number of line breaks. -/
def lineBreaks : Bool → Bytes → Nat
  | _, [] => 0
  | returned, b :: rest =>
    (if breaksLine returned b then 1 else 0) + lineBreaks (b == carriageReturn) rest

/-- The line on which the next byte stands, counted from 1. -/
def lineAfter (front : Bytes) : Nat :=
  1 + lineBreaks false front

end Text

namespace Delimited

variable {separator : Separator}

/-! ### Where the reading stands -/

/-- Where the reading stands after one more byte. -/
def Standing.next (separator : Separator) : Standing → UInt8 → Standing
  | .between, b =>
    if isTerminator b then .between
    else
      match effect separator .start [] b with
      | .goOn mode field => .inField mode field []
      | .endField => .inField .start [] [[]]
      | .endRecord => .between
  | .inField mode field fields, b =>
    match effect separator mode field b with
    | .goOn mode field => .inField mode field fields
    | .endField => .inField .start [] (field.reverse :: fields)
    | .endRecord => .between

/-- Where the reading stands after some more bytes. -/
def Standing.after (separator : Separator) (s : Standing) (bytes : Bytes) : Standing :=
  bytes.foldl (Standing.next separator) s

/-- Whether a byte ends a record. -/
def Standing.ends (separator : Separator) : Standing → UInt8 → Bool
  | .between, _ => false
  | .inField mode field _, b => effect separator mode field b == .endRecord

/-- The number of records that end within bytes. -/
def ended (separator : Separator) : Standing → Bytes → Nat
  | _, [] => 0
  | s, b :: rest =>
    (if s.ends separator b then 1 else 0) + ended separator (s.next separator b) rest

def Standing.isBetween : Standing → Bool
  | .between => true
  | .inField _ _ _ => false

def Standing.isQuoted : Standing → Bool
  | .inField .quoted _ _ => true
  | _ => false

/-- The number of line breaks that are met where the reading stands like this. -/
def breaksWhere (separator : Separator) (stands : Standing → Bool) :
    Standing → Bool → Bytes → Nat
  | _, _, [] => 0
  | s, returned, b :: rest =>
    (if Text.breaksLine returned b && stands s then 1 else 0)
      + breaksWhere separator stands (s.next separator b) (b == carriageReturn) rest

/-- The number of empty lines at the beginning of a file. -/
def emptyLines (separator : Separator) (front : Bytes) : Nat :=
  breaksWhere separator Standing.isBetween .between false front

/-- The number of line breaks within quotes at the beginning of a file. -/
def quotedBreaks (separator : Separator) (front : Bytes) : Nat :=
  breaksWhere separator Standing.isQuoted .between false front

/-- The bytes of a file behind its mark. -/
def body : Bytes → Bytes
  | 0xEF :: 0xBB :: 0xBF :: rest => rest
  | bytes => bytes

/-- Where the reading stands like this, the record of this number begins behind these bytes: so many
records have ended, none is open, and the next byte is not passed over. -/
structure Begins (separator : Separator) (s : Standing) (bytes : Bytes) (k : Nat) (front : Bytes) :
    Prop where
  here : ∃ b rest, bytes = front ++ b :: rest ∧ isTerminator b = false
  stands : s.after separator front = .between
  before : ended separator s front = k

/-! ### One byte -/

section Step

variable {s : Standing} {b : UInt8}

theorem effectOutside_eq_endRecord_iff {field : Bytes} :
    effectOutside separator field b = .endRecord ↔ isTerminator b = true := by
  unfold effectOutside
  split
  · rename_i same
    simp [beq_iff_eq.mp same, separator.not_isTerminator]
  · split
    · rename_i ends
      simp [ends]
    · rename_i goes
      simp [goes]

/-- Only outside quotes, and only with a terminator, does a record end. -/
theorem effect_eq_endRecord_iff {mode : Mode} {field : Bytes} :
    effect separator mode field b = .endRecord ↔ mode ≠ .quoted ∧ isTerminator b = true := by
  have plain : isTerminator quote = false := rfl
  cases mode with
  | plain => simp [effect, effectOutside_eq_endRecord_iff]
  | quoted =>
      simp only [effect, ne_eq, not_true_eq_false, false_and, iff_false]
      split <;> simp
  | start =>
      by_cases opens : b = quote
      · simp [effect, opens, plain]
      · simp [effect, opens, effectOutside_eq_endRecord_iff]
  | quoteSeen =>
      by_cases closes : b = quote
      · simp [effect, closes, plain]
      · simp [effect, closes, effectOutside_eq_endRecord_iff]

theorem ends_eq (s : Standing) (b : UInt8) :
    s.ends separator b = (!s.isBetween && !s.isQuoted && isTerminator b) := by
  cases s with
  | between => rfl
  | inField mode field fields =>
      rw [Bool.eq_iff_iff, Standing.ends, beq_iff_eq, effect_eq_endRecord_iff]
      cases mode <;> simp [Standing.isBetween, Standing.isQuoted]

/-- A record begins with a byte that is not passed over. -/
theorem isBetween_next_between (solid : isTerminator b = false) :
    (Standing.between.next separator b).isBetween = false := by
  have goes : effect separator .start [] b ≠ .endRecord := by
    rw [ne_eq, effect_eq_endRecord_iff, solid]
    simp
  simp only [Standing.next, solid]
  cases found : effect separator .start [] b with
  | goOn mode field => rfl
  | endField => rfl
  | endRecord => exact absurd found goes

/-- Within a record the reading comes to stand between records only by ending it. -/
theorem ends_of_isBetween_next (inside : s.isBetween = false)
    (outside : (s.next separator b).isBetween = true) : s.ends separator b = true := by
  cases s with
  | between => contradiction
  | inField mode field fields =>
      simp only [Standing.next] at outside
      cases found : effect separator mode field b with
      | endRecord => rw [Standing.ends, found]; rfl
      | goOn mode field => rw [found] at outside; contradiction
      | endField => rw [found] at outside; contradiction

theorem next_of_ends (ends : s.ends separator b = true) :
    s.isBetween = false ∧ s.next separator b = .between := by
  cases s with
  | between => contradiction
  | inField mode field fields =>
      have record : effect separator mode field b = .endRecord := beq_iff_eq.mp ends
      exact ⟨rfl, by simp [Standing.next, record]⟩

/-- A carriage return leaves the reading between records or within quotes. -/
theorem rests_next_return (s : Standing) :
    (s.next separator carriageReturn).isBetween || (s.next separator carriageReturn).isQuoted := by
  have ends : isTerminator carriageReturn = true := rfl
  cases s with
  | between => simp [Standing.next, ends, Standing.isBetween]
  | inField mode field fields =>
      by_cases quoted : mode = .quoted
      · rw [quoted]
        rfl
      · have record : effect separator mode field carriageReturn = .endRecord :=
          effect_eq_endRecord_iff.mpr ⟨quoted, ends⟩
        simp [Standing.next, record, Standing.isBetween]

/-- A line break ends a record, is an empty line, or stands within quotes. After a carriage return
the reading is not in a field without quotes, so a line feed there ends no record. -/
theorem breaksLine_eq {returned : Bool}
    (rests : returned = true → (s.isBetween || s.isQuoted) = true) (b : UInt8) :
    (if Text.breaksLine returned b then 1 else 0) =
      (if s.ends separator b then 1 else 0) +
        ((if Text.breaksLine returned b && s.isBetween then 1 else 0) +
          if Text.breaksLine returned b && s.isQuoted then 1 else 0) := by
  have apart : (s.isBetween && s.isQuoted) = false := by
    cases s <;> rfl
  rw [ends_eq, isTerminator, Text.breaksLine]
  generalize s.isBetween = between at rests apart ⊢
  generalize s.isQuoted = quoted at rests apart ⊢
  cases returned <;> cases between <;> cases quoted <;>
    cases b == lineFeed <;> cases b == carriageReturn <;> simp at *

/-- What one byte adds to the records that are read. -/
theorem rowsFrom_cons (begun here : Place) (s : Standing) (b : UInt8) (rest : Bytes) :
    ∃ begun' first, first.length = (if s.ends separator b then 1 else 0) ∧
      rowsFrom separator begun here s (b :: rest) =
        first ++ rowsFrom separator begun' (here.next b) (s.next separator b) rest := by
  cases s with
  | between =>
      refine ⟨begun, [], rfl, ?_⟩
      simp only [rowsFrom, Standing.next, List.nil_append]
      split
      · rfl
      · cases effect separator .start [] b <;> rfl
  | inField mode field fields =>
      cases found : effect separator mode field b with
      | goOn mode' field' =>
          refine ⟨begun, [], ?_, ?_⟩
          · simp [Standing.ends, found]
          · simp only [rowsFrom, Standing.next, found, List.nil_append]
      | endField =>
          refine ⟨begun, [], ?_, ?_⟩
          · simp [Standing.ends, found]
          · simp only [rowsFrom, Standing.next, found, List.nil_append]
      | endRecord =>
          refine ⟨here.next b, [⟨begun, (field.reverse :: fields).reverse⟩], ?_, ?_⟩
          · simp [Standing.ends, found]
          · simp only [rowsFrom, Standing.next, found, List.singleton_append]

end Step

/-! ### Line breaks -/

/-- Every line break ends a record, is an empty line, or stands within quotes. -/
theorem lineBreaks_eq {s : Standing} {returned : Bool}
    (rests : returned = true → (s.isBetween || s.isQuoted) = true) (bytes : Bytes) :
    Text.lineBreaks returned bytes = ended separator s bytes +
      (breaksWhere separator Standing.isBetween s returned bytes +
        breaksWhere separator Standing.isQuoted s returned bytes) := by
  induction bytes generalizing s returned with
  | nil => rfl
  | cons b bytes ih =>
      have here := @breaksLine_eq separator s returned rests b
      have later : (b == carriageReturn) = true →
          ((s.next separator b).isBetween || (s.next separator b).isQuoted) = true := by
        intro same
        rw [beq_iff_eq.mp same]
        exact rests_next_return s
      have others := ih later
      simp only [Text.lineBreaks, ended, breaksWhere]
      omega

theorem lineAfter_eq (separator : Separator) (front : Bytes) :
    Text.lineAfter front = 1 + ended separator .between front +
      emptyLines separator front + quotedBreaks separator front := by
  have counted := @lineBreaks_eq separator .between false (by simp) front
  rw [Text.lineAfter, counted, emptyLines, quotedBreaks]
  omega

/-! ### Records -/

theorem Begins.cons {s : Standing} {b : UInt8} {bytes front : Bytes} {k : Nat}
    (begins : Begins separator (s.next separator b) bytes k front) :
    Begins separator s (b :: bytes) ((if s.ends separator b then 1 else 0) + k) (b :: front) := by
  obtain ⟨⟨c, rest, rfl, solid⟩, stands, rfl⟩ := begins
  exact ⟨⟨c, rest, rfl, solid⟩, stands, rfl⟩

/-- A record that is read is the one that is open, or begins somewhere. -/
theorem exists_begins_of_lt_length {begun here : Place} {s : Standing} {bytes : Bytes} {k : Nat}
    (read : k < (rowsFrom separator begun here s bytes).length) :
    (k = 0 ∧ s.isBetween = false) ∨ ∃ front, Begins separator s bytes k front := by
  induction bytes generalizing begun here s k with
  | nil =>
      cases s with
      | between => simp [rowsFrom] at read
      | inField mode field fields =>
          simp only [rowsFrom, List.length_singleton] at read
          exact .inl ⟨by omega, rfl⟩
  | cons b bytes ih =>
      obtain ⟨begun', first, length, found⟩ := @rowsFrom_cons separator begun here s b bytes
      rw [found, List.length_append, length] at read
      -- A record that ends with this byte was open, and those behind it are counted from the next.
      by_cases ends : s.ends separator b = true
      · obtain ⟨inside, next⟩ := next_of_ends ends
        cases k with
        | zero => exact .inl ⟨rfl, inside⟩
        | succ k =>
            rw [if_pos ends, next] at read
            have others : k < (rowsFrom separator begun' (here.next b) .between bytes).length := by
              omega
            obtain ⟨_, ⟨⟩⟩ | ⟨front, begins⟩ := ih others
            rw [← next] at begins
            have moved := begins.cons
            rw [if_pos ends, Nat.add_comm] at moved
            exact .inr ⟨b :: front, moved⟩
      · rw [if_neg ends, Nat.zero_add] at read
        obtain ⟨rfl, entered⟩ | ⟨front, begins⟩ := ih read
        · -- The record is open after this byte, so it was open before, or begins with it.
          cases s with
          | inField mode field fields => exact .inl ⟨rfl, rfl⟩
          | between =>
              refine .inr ⟨[], ⟨b, bytes, rfl, ?_⟩, rfl, rfl⟩
              by_contra passed
              rw [Bool.not_eq_false] at passed
              simp [Standing.next, passed, Standing.isBetween] at entered
        · have moved := begins.cons
          rw [if_neg ends, Nat.zero_add] at moved
          exact .inr ⟨b :: front, moved⟩

theorem Standing.after_append (s : Standing) (bytes more : Bytes) :
    s.after separator (bytes ++ more) = (s.after separator bytes).after separator more :=
  List.foldl_append

theorem ended_append (s : Standing) (bytes more : Bytes) :
    ended separator s (bytes ++ more) =
      ended separator s bytes + ended separator (s.after separator bytes) more := by
  induction bytes generalizing s with
  | nil => simp [ended, Standing.after]
  | cons b bytes ih =>
      simp only [List.cons_append, ended, ih, Nat.add_assoc]
      rfl

/-- A record that is open ends before the reading stands between records. -/
theorem ended_pos {s : Standing} {bytes : Bytes} (inside : s.isBetween = false)
    (outside : s.after separator bytes = .between) : 0 < ended separator s bytes := by
  induction bytes generalizing s with
  | nil =>
      cases outside
      contradiction
  | cons b bytes ih =>
      rw [ended]
      cases next : (s.next separator b).isBetween with
      | true =>
          rw [if_pos (ends_of_isBetween_next inside next)]
          omega
      | false =>
          have later := ih next outside
          omega

/-- A record does not begin in two places, one of them behind the other. -/
theorem Begins.eq_nil {s : Standing} {bytes front more : Bytes} {k : Nat}
    (begins : Begins separator s bytes k front)
    (later : Begins separator s bytes k (front ++ more)) : more = [] := by
  obtain ⟨⟨b, rest, rfl, solid⟩, stands, before⟩ := begins
  obtain ⟨⟨c, tail, here, _⟩, stands', before'⟩ := later
  cases more with
  | nil => rfl
  | cons d more =>
      -- The bytes between the two places open a record, which has to end within them.
      rw [List.append_assoc, List.append_cancel_left_eq] at here
      obtain ⟨rfl, _⟩ := List.cons.inj here
      rw [Standing.after_append, stands] at stands'
      rw [ended_append, stands, before] at before'
      have ends := ended_pos (isBetween_next_between solid) stands'
      rw [ended] at before'
      omega

theorem Begins.unique {s : Standing} {bytes front front' : Bytes} {k : Nat}
    (begins : Begins separator s bytes k front) (begins' : Begins separator s bytes k front') :
    front' = front := by
  obtain ⟨b, rest, same, _⟩ := begins.here
  obtain ⟨b', rest', same', _⟩ := begins'.here
  obtain ⟨more, rfl⟩ | ⟨more, rfl⟩ :=
    List.prefix_or_prefix_of_prefix ⟨b :: rest, same.symm⟩ ⟨b' :: rest', same'.symm⟩
  · simp [begins.eq_nil begins']
  · simp [begins'.eq_nil begins]

/-- The reading of bytes is the reading of a part of them, and then of the others from where that
leaves it. -/
theorem rowsFrom_append (begun here : Place) (s : Standing) (front rest : Bytes) :
    ∃ begun' here' first, first.length = ended separator s front ∧
      rowsFrom separator begun here s (front ++ rest) =
        first ++ rowsFrom separator begun' here' (s.after separator front) rest := by
  induction front generalizing begun here s with
  | nil => exact ⟨begun, here, [], rfl, rfl⟩
  | cons b front ih =>
      obtain ⟨begun', one, length, read⟩ :=
        @rowsFrom_cons separator begun here s b (front ++ rest)
      obtain ⟨begun'', here', others, length', read'⟩ :=
        ih begun' (here.next b) (s.next separator b)
      refine ⟨begun'', here', one ++ others, ?_, ?_⟩
      · rw [List.length_append, length, length', ended]
      · rw [List.cons_append, read, read', List.append_assoc]
        rfl

/-- The records of a file are read from behind its mark. -/
theorem rows_eq_rowsFrom_body (separator : Separator) (bytes : Bytes) :
    ∃ here, rows separator bytes = rowsFrom separator .first here .between (body bytes) := by
  unfold rows
  split
  · exact ⟨⟨3, 1⟩, rfl⟩
  · rename_i unmarked
    refine ⟨.first, ?_⟩
    unfold body
    split
    · exact absurd rfl (unmarked _)
    · rfl

/-- Each record of a file begins somewhere. -/
theorem exists_begins {bytes : Bytes} {k : Nat} (read : k < (rows separator bytes).length) :
    ∃ front, Begins separator .between (body bytes) k front := by
  obtain ⟨here, same⟩ := rows_eq_rowsFrom_body separator bytes
  rw [same] at read
  obtain ⟨_, ⟨⟩⟩ | found := exists_begins_of_lt_length read
  exact found

/-- Where a record begins, a reading of what stands there begins with that record. -/
theorem Begins.getElem?_rows {bytes front : Bytes} {k : Nat}
    (begins : Begins separator .between (body bytes) k front) :
    ∃ begun here rest, body bytes = front ++ rest ∧
      (rows separator bytes)[k]? = (rowsFrom separator begun here .between rest).head? := by
  obtain ⟨⟨b, rest, bounds, _⟩, stands, rfl⟩ := begins
  obtain ⟨start, same⟩ := rows_eq_rowsFrom_body separator bytes
  obtain ⟨begun, here, first, length, read⟩ :=
    @rowsFrom_append separator .first start .between front (b :: rest)
  refine ⟨begun, here, b :: rest, bounds, ?_⟩
  rw [same, bounds, read, stands, List.getElem?_append_right (by omega), length, Nat.sub_self,
    List.head?_eq_getElem?]

theorem length_records_read (separator : Separator) (bytes : Bytes) :
    (read separator bytes).records.length = (rows separator bytes).length - 1 := by
  unfold read
  split <;> simp [*]

end Delimited

/-! ### Faults about records -/

/-- The number of the record that a fault of a delimited table is about, the header being 0. -/
def SourceFault.record? : SourceFault → Option Nat
  | .record k _ => some k
  | .delimitedRow k _ => some k
  | _ => none

theorem SourceFault.causes_of_record {fault : SourceFault} {k : Nat}
    (about : fault.record? = some k) :
    fault.causes.head? = some ("CSV line " ++ Integer.natText (k + 1)) := by
  cases fault <;> cases about <;> rfl

namespace Load

open Delimited

/-- The loop over records refuses one of them. -/
theorem records_eq_error {layout : Layout} {number : Nat}
    {items : List (Except Delimited.Fault (List String))} {fault : SourceFault}
    (refused : records layout number items = .error fault) :
    ∃ k, fault.record? = some k ∧ number ≤ k ∧ k < number + items.length := by
  induction items generalizing number with
  | nil => cases refused
  | cons item items ih =>
      have here : number ≤ number ∧ number < number + (item :: items).length := by simp
      cases item with
      | error f =>
          obtain rfl := Except.error.inj refused
          exact ⟨number, rfl, here⟩
      | ok fields =>
          simp only [records] at refused
          split at refused
          · obtain rfl := Except.error.inj refused
            exact ⟨number, rfl, here⟩
          · obtain ⟨k, about, least, within⟩ := ih (map_eq_error_iff.mp refused)
            rw [List.length_cons]
            exact ⟨k, about, by omega, by omega⟩

/-- A record that a fault is about is one of the file. -/
theorem record_of_delimitedBytes {bytes : Bytes} {fault : SourceFault} {k : Nat}
    (refused : delimitedBytes bytes = .error fault) (about : fault.record? = some k) :
    ∃ line, Text.decode? (Text.firstLine bytes) = some line ∧
      k < (rows (.ofFirstLine line) bytes).length := by
  unfold delimitedBytes at refused
  split at refused
  · cases Except.error.inj refused
    contradiction
  · rename_i line text
    refine ⟨line, text, ?_⟩
    have length := length_records_read (.ofFirstLine line) bytes
    unfold delimitedTable at refused
    split at refused
    · cases Except.error.inj refused
      contradiction
    · split at refused
      · cases Except.error.inj refused
        contradiction
      · obtain ⟨k', about', least, within⟩ := records_eq_error refused
        obtain rfl : k' = k := Option.some.inj (about'.symm.trans about)
        omega

/-- Whether the line that is named for a refused record is the one on which the record begins. -/
def NamesLine (bytes : Bytes) : Prop :=
  ∀ fault k, delimited (.bytes bytes) = .error fault → fault.record? = some k →
    ∃ line front, Text.decode? (Text.firstLine bytes) = some line ∧
      Begins (.ofFirstLine line) .between (body bytes) k front ∧
      fault.causes.head? = some ("CSV line " ++ Integer.natText (Text.lineAfter front))

section Refused

variable {bytes front : Bytes} {fault : SourceFault} {k : Nat} {line : String}

theorem namesLine_iff (refused : delimited (.bytes bytes) = .error fault)
    (about : fault.record? = some k) (text : Text.decode? (Text.firstLine bytes) = some line)
    (begins : Begins (.ofFirstLine line) .between (body bytes) k front) :
    NamesLine bytes ↔ Text.lineAfter front = k + 1 := by
  have named := SourceFault.causes_of_record about
  constructor
  · intro right
    obtain ⟨line', front', text', begins', named'⟩ := right fault k refused about
    obtain rfl : line' = line := Option.some.inj (text'.symm.trans text)
    obtain rfl := begins.unique begins'
    have same := Option.some.inj (named'.symm.trans named)
    exact Integer.natText_injective ((String.append_right_inj _).mp same)
  · intro same fault' k' refused' about'
    cases Except.error.inj (refused.symm.trans refused')
    cases Option.some.inj (about.symm.trans about')
    exact ⟨line, front, text, begins, by rw [named, same]⟩

/-- A record that is refused begins at one place. The line that is named for it falls short of the
line of that place by the empty lines and the line breaks within quotes before it, so the right line
is named exactly if there are none of either. -/
theorem line_of_refused (refused : delimited (.bytes bytes) = .error fault)
    (about : fault.record? = some k) :
    fault.causes.head? = some ("CSV line " ++ Integer.natText (k + 1)) ∧
      ∃ line front, Text.decode? (Text.firstLine bytes) = some line ∧
        Begins (.ofFirstLine line) .between (body bytes) k front ∧
        (∀ other, Begins (.ofFirstLine line) .between (body bytes) k other → other = front) ∧
        Text.lineAfter front = k + 1 + emptyLines (.ofFirstLine line) front +
          quotedBreaks (.ofFirstLine line) front ∧
        (NamesLine bytes ↔ emptyLines (.ofFirstLine line) front = 0 ∧
          quotedBreaks (.ofFirstLine line) front = 0) := by
  obtain ⟨line, text, within⟩ := record_of_delimitedBytes refused about
  obtain ⟨front, begins⟩ := exists_begins within
  have place : Text.lineAfter front = k + 1 + emptyLines (.ofFirstLine line) front +
      quotedBreaks (.ofFirstLine line) front := by
    rw [lineAfter_eq (.ofFirstLine line), begins.before]
    omega
  refine ⟨SourceFault.causes_of_record about, line, front, text, begins, ?_, place, ?_⟩
  · intro other elsewhere
    exact begins.unique elsewhere
  · rw [namesLine_iff refused about text begins, place]
    omega

end Refused

/-- A header, a record with a line break within quotes, and an empty line. -/
def spreadFront : Bytes :=
  Text.encode "Year;District;Gender;Name;Count\r\n2000;1;1;\"E\nva\";3\r\n\r\n"

/-- A file whose second record begins on the fifth line and has an unknown code of a gender. -/
def spreadSample : Bytes :=
  spreadFront ++ Text.encode "2000;1;7;Alex;3\r\n"

theorem line_of_refused_spreadSample :
    delimited (.bytes spreadSample) = .error (.delimitedRow 2 (.value (.unknownGender 7))) ∧
      (SourceFault.delimitedRow 2 (.value (.unknownGender 7))).causes.head? = some "CSV line 3" ∧
      Text.lineAfter spreadFront = 2 + 1 + 1 + 1 ∧ ¬ NamesLine spreadSample := by
  have refused : delimited (.bytes spreadSample) =
      .error (.delimitedRow 2 (.value (.unknownGender 7))) := by decide +kernel
  have text : Text.decode? (Text.firstLine spreadSample) =
      some "Year;District;Gender;Name;Count\r\n" := by decide +kernel
  obtain ⟨named, line, front, text', -, unique, place, right⟩ := line_of_refused refused rfl
  obtain rfl := Option.some.inj (text.symm.trans text')
  have here : Begins .semicolon .between (body spreadSample) 2 spreadFront :=
    ⟨⟨50, Text.encode "000;1;7;Alex;3\r\n", by decide +kernel, rfl⟩, by decide +kernel,
      by decide +kernel⟩
  obtain rfl := unique spreadFront here
  have guessed : Separator.ofFirstLine "Year;District;Gender;Name;Count\r\n" = .semicolon := by
    decide +kernel
  have empty : emptyLines .semicolon spreadFront = 1 := by decide +kernel
  have quoted : quotedBreaks .semicolon spreadFront = 1 := by decide +kernel
  rw [guessed, empty, quoted] at place right
  refine ⟨refused, named, place, ?_⟩
  intro claimed
  cases (right.mp claimed).1

/-- A file with an empty line before its only record, which has an unknown code of a gender. -/
def gapSample : Bytes :=
  Text.encode "Year;District;Gender;Name;Count\n\n2000;1;7;Alex;3\n"

/-- The record begins on the third line, and the second one is named. -/
theorem not_namesLine_gapSample :
    delimited (.bytes gapSample) = .error (.delimitedRow 1 (.value (.unknownGender 7))) ∧
      (SourceFault.delimitedRow 1 (.value (.unknownGender 7))).causes.head? = some "CSV line 2" ∧
      ¬ NamesLine gapSample := by
  have refused : delimited (.bytes gapSample) =
      .error (.delimitedRow 1 (.value (.unknownGender 7))) := by decide +kernel
  have text : Text.decode? (Text.firstLine gapSample) =
      some "Year;District;Gender;Name;Count\n" := by decide +kernel
  let front := Text.encode "Year;District;Gender;Name;Count\n\n"
  have here : Begins .semicolon .between (body gapSample) 1 front :=
    ⟨⟨50, Text.encode "000;1;7;Alex;3\n", by decide +kernel, rfl⟩, by decide +kernel,
      by decide +kernel⟩
  refine ⟨refused, rfl, ?_⟩
  rw [namesLine_iff refused rfl text here]
  decide +kernel

end Load

end GivenNames
