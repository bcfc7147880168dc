import GivenNames.Proofs.Text.Encoding
import GivenNames.Text.Blank
import GivenNames.Text.Lines
import GivenNames.Text.Pieces
import Mathlib.Data.List.TakeWhile

/-!
The lines of a stream that is text.

The lines of a text are the pieces between its line feeds: each but the last without one carriage
return at its end, the last one only if it is not empty. Main statement: cutting the bytes of a text
into lines gives the bytes of its lines (`lines_encode`). A line is blank exactly when trimming
leaves nothing of it (`isBlankText_eq_true_iff`).
-/

namespace GivenNames.Text

/-! ### Lines of characters -/

/-- The characters of a line without the one carriage return at its end. -/
def withoutReturn (line : List Char) : List Char :=
  if line.getLast? = some '\r' then line.dropLast else line

/-- The lines that the pieces between line feeds are. -/
def linesOfPieces : List (List Char) → List (List Char)
  | [] => []
  | [last] => if last.isEmpty then [] else [last]
  | piece :: pieces => withoutReturn piece :: linesOfPieces pieces

/-- The lines of a text. -/
def textLines (s : String) : List String :=
  (linesOfPieces (pieces '\n' s.toList)).map String.ofList

theorem pieces_of_notMem {separator : Char} {cs : List Char} (absent : separator ∉ cs) :
    pieces separator cs = [cs] := by
  induction cs with
  | nil => rfl
  | cons c cs ih =>
      obtain ⟨other, later⟩ := List.ne_and_not_mem_of_not_mem_cons absent
      simp [pieces, other.symm, ih later]

theorem pieces_append {separator : Char} {cs : List Char} (absent : separator ∉ cs)
    (rest : List Char) :
    pieces separator (cs ++ separator :: rest) = cs :: pieces separator rest := by
  induction cs with
  | nil => simp [pieces]
  | cons c cs ih =>
      obtain ⟨other, later⟩ := List.ne_and_not_mem_of_not_mem_cons absent
      simp [pieces, other.symm, ih later]

theorem linesOfPieces_cons (piece : List Char) {rest : List (List Char)} (more : rest ≠ []) :
    linesOfPieces (piece :: rest) = withoutReturn piece :: linesOfPieces rest := by
  cases rest with
  | nil => exact absurd rfl more
  | cons next rest => rfl

/-! ### Lines of bytes -/

theorem utf8EncodeChar_lineFeed : String.utf8EncodeChar '\n' = [lineFeed] := rfl

theorem utf8EncodeChar_return : String.utf8EncodeChar '\r' = [carriageReturn] := rfl

theorem lineFeed_mem_encodeChars {cs : List Char} (member : lineFeed ∈ encodeChars cs) :
    '\n' ∈ cs := by
  obtain ⟨c, here, same⟩ := mem_encodeChars_ascii (by decide) member
  have char : c = '\n' := Char.toNat_inj.mp same
  exact char ▸ here

theorem linesAfter_plain {line : Bytes} (plain : lineFeed ∉ line) (begun : Bytes) :
    linesAfter begun line =
      if (begun.reverse ++ line).isEmpty then [] else [begun.reverse ++ line] := by
  induction line generalizing begun with
  | nil => simp [linesAfter]
  | cons b line ih =>
      obtain ⟨other, later⟩ := List.ne_and_not_mem_of_not_mem_cons plain
      simp [linesAfter, other.symm, ih later]

theorem getLast?_utf8EncodeChar {c : Char}
    (ends : (String.utf8EncodeChar c).getLast? = some carriageReturn) : c = '\r' := by
  have member : carriageReturn ∈ encodeChars [c] := by
    simpa using List.mem_of_getLast? ends
  obtain ⟨d, here, same⟩ := mem_encodeChars_ascii (by decide) member
  rw [List.mem_singleton] at here
  subst here
  exact Char.toNat_inj.mp same

theorem dropReturn_encodeChars (line : List Char) :
    dropReturn (encodeChars line) = encodeChars (withoutReturn line) := by
  obtain rfl | ⟨front, c, rfl⟩ := List.eq_nil_or_concat line
  · rfl
  · by_cases same : c = '\r'
    · subst same
      simp [dropReturn, withoutReturn, utf8EncodeChar_return]
    · have last : (String.utf8EncodeChar c).getLast? ≠ some carriageReturn :=
        fun ends => same (getLast?_utf8EncodeChar ends)
      simp [dropReturn, withoutReturn, same, last]

theorem lines_encodeChars (cs : List Char) :
    lines (encodeChars cs) = (linesOfPieces (pieces '\n' cs)).map encodeChars := by
  by_cases more : '\n' ∈ cs
  · obtain ⟨line, rest, rfl, absent⟩ := List.eq_append_cons_of_mem more
    have plain : lineFeed ∉ encodeChars line := fun member =>
      absent (lineFeed_mem_encodeChars member)
    have ih := lines_encodeChars rest
    rw [pieces_append absent, linesOfPieces_cons _ (pieces_ne_nil '\n' rest), List.map_cons, ← ih,
      ← dropReturn_encodeChars]
    simpa [lines, utf8EncodeChar_lineFeed] using
      linesAfter_append [] (encodeChars line) (encodeChars rest) plain
  · have plain : lineFeed ∉ encodeChars cs := fun member => more (lineFeed_mem_encodeChars member)
    rw [pieces_of_notMem more, lines, linesAfter_plain plain]
    cases cs with
    | nil => rfl
    | cons c cs => simp [linesOfPieces, String.utf8EncodeChar_ne_nil]
termination_by cs.length

/-- The lines of the bytes of a text are the bytes of its lines. -/
theorem lines_encode (s : String) : lines (encode s) = (textLines s).map encode := by
  rw [encode_eq_flatMap, lines_encodeChars, textLines, List.map_map]
  exact List.map_congr_left fun line _ => (encode_ofList line).symm

theorem firstLine_append {line : Bytes} (plain : lineFeed ∉ line) (rest : Bytes) :
    firstLine (line ++ lineFeed :: rest) = line ++ [lineFeed] := by
  induction line with
  | nil => rfl
  | cons b line ih =>
      obtain ⟨other, later⟩ := List.ne_and_not_mem_of_not_mem_cons plain
      simp [firstLine, other.symm, ih later]

/-! ### Blanks -/

theorem isBlank_of_isDigit {c : Char} (digit : c.isDigit = true) : isBlank c = false := by
  have range : 48 ≤ c.toNat ∧ c.toNat ≤ 57 := Char.isDigit_iff_toNat.mp digit
  simp only [isBlank]
  grind

theorem trimChars_of_solid {cs : List Char} (solid : ∀ c ∈ cs, isBlank c = false) :
    trimChars cs = cs := by
  have kept {ds : List Char} (inside : ∀ c ∈ ds, c ∈ cs) : ds.dropWhile isBlank = ds := by
    cases ds with
    | nil => rfl
    | cons d ds => simp [solid d (inside d List.mem_cons_self)]
  rw [trimChars, kept fun _ member => member, kept fun _ member => List.mem_reverse.mp member,
    List.reverse_reverse]

theorem holds_or_mem_dropWhile {p : Char → Bool} {cs : List Char} {c : Char} (member : c ∈ cs) :
    p c = true ∨ c ∈ cs.dropWhile p := by
  rw [← List.takeWhile_append_dropWhile (p := p) (l := cs)] at member
  rcases List.mem_append.mp member with front | back
  · exact .inl (List.mem_takeWhile_imp front)
  · exact .inr back

/-- Trimming drops nothing but blanks. -/
theorem isBlank_or_mem_trimChars {cs : List Char} {c : Char} (member : c ∈ cs) :
    isBlank c = true ∨ c ∈ trimChars cs := by
  rcases holds_or_mem_dropWhile member with blank | back
  · exact .inl blank
  · exact (holds_or_mem_dropWhile (List.mem_reverse.mpr back)).imp_right List.mem_reverse.mpr

theorem trimChars_eq_nil_iff {cs : List Char} : trimChars cs = [] ↔ ∀ c ∈ cs, isBlank c = true := by
  constructor
  · intro empty c member
    rcases isBlank_or_mem_trimChars member with blank | kept
    · exact blank
    · rw [empty] at kept
      exact absurd kept List.not_mem_nil
  · intro blank
    rw [trimChars, List.dropWhile_eq_nil_iff.mpr blank]
    rfl

/-- A text is blank exactly when trimming leaves nothing of it. -/
theorem isBlankText_eq_true_iff (s : String) : isBlankText s = true ↔ trim s = "" := by
  rw [isBlankText, List.all_eq_true, ← trimChars_eq_nil_iff, trim]
  exact ⟨fun empty => by rw [empty, String.ofList_nil], fun empty => by
    simpa using congrArg String.toList empty⟩

end GivenNames.Text
