import GivenNames.Delimited.Reader
import GivenNames.Delimited.Writer
import GivenNames.Proofs.Results
import GivenNames.Proofs.Text.Lines

/-!
Delimited tables read back.

A written field leaves the reader where the field may end, with its bytes gathered, whether it
stands in quotes or not (`rowsFrom_writeField`); so a written record gives its fields
(`rowsFrom_writeRecord`) and a written table its records. Main statements: what `write` writes,
`read` reads back (`read_write`), but for one byte order mark: where the first header begins with a
mark and stands without quotes, the mark is taken for that of the file (`unmarked`). A file
whose headers stand on one line is taken for what it is, with semicolons (`ofFirstLine_write`) and,
if no header holds one, with commas (`ofFirstLine_write_comma`); one with semicolons also where its
headers take several lines, as long as they hold no comma (`ofFirstLine_write_of_commaless`).
Whatever the file, the records that are read are as wide as the header (`length_of_read`).
-/

namespace GivenNames.Delimited

open Text (Bytes encode encodeChars)

variable {separator : Separator} {begun here : Place}

/-! ### Places and effects -/

/-- The place after some more bytes. -/
def Place.past (p : Place) (bytes : Bytes) : Place :=
  bytes.foldl Place.next p

@[simp] theorem Place.past_nil (p : Place) : p.past [] = p := rfl

@[simp] theorem Place.past_cons (p : Place) (b : UInt8) (bytes : Bytes) :
    p.past (b :: bytes) = (p.next b).past bytes := rfl

@[simp] theorem Place.past_append (p : Place) (bytes more : Bytes) :
    p.past (bytes ++ more) = (p.past bytes).past more :=
  List.foldl_append

theorem Separator.byte_ne_quote (separator : Separator) : (separator.byte == quote) = false := by
  cases separator <;> rfl

theorem Separator.not_isTerminator (separator : Separator) :
    isTerminator separator.byte = false := by
  cases separator <;> rfl

/-- Bytes that a field can hold without quotes. -/
def Ordinary (separator : Separator) (b : UInt8) : Prop :=
  (b == separator.byte) = false ∧ (b == quote) = false ∧ isTerminator b = false

theorem ordinary_of_needsQuotes {field : Bytes} (plain : needsQuotes separator field = false) :
    ∀ b ∈ field, Ordinary separator b := by
  intro b member
  have none := List.any_eq_false.mp plain b member
  simp only [Bool.or_eq_true, not_or, Bool.not_eq_true] at none
  exact ⟨none.1.1, none.1.2, none.2⟩

theorem effect_ordinary {mode : Mode} (outside : mode = .start ∨ mode = .plain) {b : UInt8}
    (ordinary : Ordinary separator b) (field : Bytes) :
    effect separator mode field b = .goOn .plain (b :: field) := by
  obtain ⟨inside, unquoted, going⟩ := ordinary
  rcases outside with rfl | rfl <;> simp [effect, effectOutside, inside, unquoted, going]

/-- Outside quotes a separator ends the field. -/
theorem effect_separator {mode : Mode} (outside : mode ≠ .quoted) (field : Bytes) :
    effect separator mode field separator.byte = .endField := by
  have unquoted := separator.byte_ne_quote
  cases mode <;> first | contradiction | simp [effect, effectOutside, unquoted]

/-- Outside quotes a line feed ends the record. -/
theorem effect_lineFeed {mode : Mode} (outside : mode ≠ .quoted) (field : Bytes) :
    effect separator mode field Text.lineFeed = .endRecord := by
  have unquoted : (Text.lineFeed == quote) = false := rfl
  have inside : (Text.lineFeed == separator.byte) = false := by cases separator <;> rfl
  have ends : isTerminator Text.lineFeed = true := rfl
  cases mode <;> first | contradiction | simp [effect, effectOutside, unquoted, inside, ends]

/-! ### Fields -/

theorem rowsFrom_plain {bytes : Bytes} (ordinary : ∀ b ∈ bytes, Ordinary separator b)
    (here : Place) (field : Bytes) (fields : List Bytes) (rest : Bytes) :
    rowsFrom separator begun here (.inField .plain field fields) (bytes ++ rest) =
      rowsFrom separator begun (here.past bytes)
        (.inField .plain (bytes.reverse ++ field) fields) rest := by
  induction bytes generalizing here field with
  | nil => rfl
  | cons b bytes ih =>
      have first := effect_ordinary (.inr rfl) (ordinary b List.mem_cons_self) field
      have others := ih (fun c member => ordinary c (List.mem_cons_of_mem b member))
      simp [rowsFrom, first, others]

theorem doubleQuotes_quote (bytes : Bytes) :
    doubleQuotes (quote :: bytes) = quote :: quote :: doubleQuotes bytes := rfl

theorem doubleQuotes_other {b : UInt8} (other : b ≠ quote) (bytes : Bytes) :
    doubleQuotes (b :: bytes) = b :: doubleQuotes bytes := by
  simp [doubleQuotes, other]

theorem rowsFrom_doubled (bytes : Bytes) (here : Place) (field : Bytes) (fields : List Bytes)
    (rest : Bytes) :
    rowsFrom separator begun here (.inField .quoted field fields) (doubleQuotes bytes ++ rest) =
      rowsFrom separator begun (here.past (doubleQuotes bytes))
        (.inField .quoted (bytes.reverse ++ field) fields) rest := by
  induction bytes generalizing here field with
  | nil => rfl
  | cons b bytes ih =>
      by_cases same : b = quote
      · subst same
        simp [doubleQuotes_quote, rowsFrom, effect, ih]
      · simp [doubleQuotes_other same, rowsFrom, effect, same, ih]

/-- A written field leaves the reader where the field may end, with the bytes of the field
gathered. -/
theorem rowsFrom_writeField (separator : Separator) (begun here : Place) (field : Bytes)
    (fields : List Bytes) (rest : Bytes) :
    ∃ mode, mode ≠ .quoted ∧
      rowsFrom separator begun here (.inField .start [] fields)
          (writeField separator field ++ rest) =
        rowsFrom separator begun (here.past (writeField separator field))
          (.inField mode field.reverse fields) rest := by
  cases quoted : needsQuotes separator field with
  | true =>
      refine ⟨.quoteSeen, by decide, ?_⟩
      simp [writeField, quoted, quoteField, rowsFrom, effect, rowsFrom_doubled]
  | false =>
      have ordinary := ordinary_of_needsQuotes quoted
      cases field with
      | nil => exact ⟨.start, by decide, by simp [writeField, quoted]⟩
      | cons b field =>
          refine ⟨.plain, by decide, ?_⟩
          have first := effect_ordinary (.inl rfl) (ordinary b List.mem_cons_self) []
          have others := fun c member => ordinary c (List.mem_cons_of_mem b member)
          simp [writeField, quoted, rowsFrom, first, rowsFrom_plain others]

/-! ### Records -/

theorem rowsFrom_writeFields (separator : Separator) {written : List Bytes} (some : written ≠ [])
    (begun here : Place) (fields : List Bytes) (rest : Bytes) :
    rowsFrom separator begun here (.inField .start [] fields)
        (writeFields separator written ++ Text.lineFeed :: rest) =
      let next := (here.past (writeFields separator written)).next Text.lineFeed
      ⟨begun, fields.reverse ++ written⟩ :: rowsFrom separator next next .between rest := by
  induction written generalizing here fields with
  | nil => exact absurd rfl some
  | cons field written ih =>
      cases written with
      | nil =>
          obtain ⟨mode, outside, read⟩ :=
            rowsFrom_writeField separator begun here field fields (Text.lineFeed :: rest)
          simp [writeFields, read, rowsFrom, effect_lineFeed outside]
      | cons next written =>
          obtain ⟨mode, outside, read⟩ := rowsFrom_writeField separator begun here field fields
            (separator.byte :: (writeFields separator (next :: written) ++ Text.lineFeed :: rest))
          have others := ih (List.cons_ne_nil _ _)
          simp [writeFields, read, rowsFrom, effect_separator outside, others]

theorem rowsFrom_between {b : UInt8} (going : isTerminator b = false) (rest : Bytes) :
    rowsFrom separator begun here .between (b :: rest) =
      rowsFrom separator begun here (.inField .start [] []) (b :: rest) := by
  simp only [rowsFrom, going]
  cases what : effect separator .start [] b with
  | goOn mode field => rfl
  | endField => rfl
  | endRecord =>
      simp only [effect, effectOutside, going] at what
      grind

/-- A written record begins with a byte that ends no line, so it is no empty line. -/
theorem writeFields_head (separator : Separator) {fields : List Bytes} (some : fields ≠ [])
    (full : fields ≠ [[]]) :
    ∃ b t, writeFields separator fields = b :: t ∧ isTerminator b = false := by
  obtain ⟨field, others, rfl⟩ := List.exists_cons_of_ne_nil some
  have written : ∃ t, writeFields separator (field :: others) = writeField separator field ++ t ∧
      (others = [] ∨ ∃ more, t = separator.byte :: more) := by
    cases others with
    | nil => exact ⟨[], by simp [writeFields], .inl rfl⟩
    | cons next others => exact ⟨_, rfl, .inr ⟨_, rfl⟩⟩
  obtain ⟨t, written, last⟩ := written
  rw [written]
  cases quoted : needsQuotes separator field with
  | true => exact ⟨quote, _, by simp [writeField, quoted, quoteField]; rfl, rfl⟩
  | false =>
      simp only [writeField, quoted]
      cases field with
      | nil =>
          obtain rfl | ⟨more, rfl⟩ := last
          · contradiction
          · exact ⟨separator.byte, more, rfl, separator.not_isTerminator⟩
      | cons b field =>
          exact ⟨b, field ++ t, rfl, (ordinary_of_needsQuotes quoted b List.mem_cons_self).2.2⟩

/-- A written record gives its fields, and the next search begins behind it. -/
theorem rowsFrom_writeRecord {fields : List Bytes} (some : fields ≠ []) (begun here : Place)
    (rest : Bytes) :
    rowsFrom separator begun here .between (writeRecord separator fields ++ rest) =
      let next := here.past (writeRecord separator fields)
      ⟨begun, fields⟩ :: rowsFrom separator next next .between rest := by
  by_cases empty : fields = [[]]
  · subst empty
    have going : isTerminator quote = false := rfl
    have opens : effect separator .start [] quote = .goOn .quoted [] := rfl
    have closes : effect separator .quoted [] quote = .goOn .quoteSeen [] := rfl
    have ends : effect separator .quoteSeen [] Text.lineFeed = .endRecord :=
      effect_lineFeed (by decide) []
    simp [writeRecord, quoteField, doubleQuotes, rowsFrom, going, opens, closes, ends]
  · obtain ⟨b, t, written, going⟩ := writeFields_head separator some empty
    have read := rowsFrom_writeFields separator some begun here [] rest
    simp only [writeRecord, if_neg empty, List.append_assoc]
    rw [written] at read ⊢
    simpa using (rowsFrom_between going _).trans read

/-! ### The byte order mark -/

/-- A text without the byte order mark in front. -/
def withoutMark (s : String) : String :=
  match s.toList with
  | '\ufeff' :: cs => String.ofList cs
  | _ => s

/-- What the first header is read as: without quotes, a mark in front of it is that of the file. -/
def readAs (separator : Separator) (h : String) : String :=
  if needsQuotes separator (encode h) then h else withoutMark h

/-- A header as it is read back. -/
def unmarked (separator : Separator) : List String → List String
  | [] => []
  | h :: header => readAs separator h :: header

theorem withoutMark_eq_self {s : String} (unmarked : ∀ cs, s.toList ≠ '\ufeff' :: cs) :
    withoutMark s = s := by
  unfold withoutMark
  split
  · rename_i cs chars
    exact absurd chars (unmarked cs)
  · rfl

theorem encode_of_mark {s : String} {cs : List Char} (marked : s.toList = '\ufeff' :: cs) :
    encode s = String.utf8EncodeChar '\ufeff' ++ encode (withoutMark s) := by
  have rest : withoutMark s = String.ofList cs := by
    rw [withoutMark, marked]
    rfl
  rw [Text.encode_eq_flatMap, marked, rest, Text.encodeChars_cons, Text.encode_ofList]

theorem needsQuotes_withoutMark {s : String} (plain : needsQuotes separator (encode s) = false) :
    needsQuotes separator (encode (withoutMark s)) = false := by
  by_cases marked : ∃ cs, s.toList = '\ufeff' :: cs
  · obtain ⟨cs, marked⟩ := marked
    rw [encode_of_mark marked, needsQuotes, List.any_append, Bool.or_eq_false_iff] at plain
    exact plain.2
  · rwa [withoutMark_eq_self (not_exists.mp marked)]

/-- Bytes that begin with a text and go on in ASCII begin with a mark only if the text does. -/
theorem mark_of_append {s : String} {b : UInt8} {t rest : Bytes} (low : b.toNat < 128)
    (same : encode s ++ b :: t = String.utf8EncodeChar '\ufeff' ++ rest) :
    ∃ cs, s.toList = '\ufeff' :: cs := by
  rw [Text.encode_eq_flatMap] at same
  cases chars : s.toList with
  | nil =>
      rw [chars, Text.encodeChars_nil, List.nil_append, Text.utf8EncodeChar_mark] at same
      rw [(List.cons.inj same).1] at low
      contradiction
  | cons c cs =>
      rw [chars, Text.encodeChars_cons, List.append_assoc] at same
      obtain ⟨rfl, _⟩ := Text.utf8EncodeChar_append_inj same
      exact ⟨cs, rfl⟩

theorem rows_mark (separator : Separator) (rest : Bytes) :
    rows separator (String.utf8EncodeChar '\ufeff' ++ rest) =
      rowsFrom separator .first ⟨3, 1⟩ .between rest := rfl

theorem rows_without_mark {bytes : Bytes}
    (absent : ∀ rest, bytes ≠ String.utf8EncodeChar '\ufeff' ++ rest) :
    rows separator bytes = rowsFrom separator .first .first .between bytes := by
  unfold rows
  split
  · exact absurd rfl (absent _)
  · rfl

/-- A field and the rest of its record, behind it other ones. -/
theorem rows_writeField (separator : Separator) (h : String) (rest : Bytes) :
    ∃ here, rows separator (writeField separator (encode h) ++ separator.byte :: rest) =
      rowsFrom separator .first here .between
        (writeField separator (encode (readAs separator h)) ++ separator.byte :: rest) := by
  cases quoted : needsQuotes separator (encode h) with
  | true =>
      refine ⟨.first, ?_⟩
      rw [readAs, if_pos quoted]
      refine rows_without_mark fun after same => ?_
      rw [writeField, if_pos quoted, quoteField, Text.utf8EncodeChar_mark] at same
      exact absurd (List.cons.inj same).1 (by decide)
  | false =>
      have plain := needsQuotes_withoutMark quoted
      have read : readAs separator h = withoutMark h := by rw [readAs, quoted]; rfl
      simp only [read, writeField, quoted, plain]
      by_cases marked : ∃ cs, h.toList = '\ufeff' :: cs
      · obtain ⟨cs, marked⟩ := marked
        rw [encode_of_mark marked]
        exact ⟨⟨3, 1⟩, by simpa using rows_mark separator _⟩
      · rw [withoutMark_eq_self (not_exists.mp marked)]
        refine ⟨.first, rows_without_mark fun after same => marked ?_⟩
        exact mark_of_append (by cases separator <;> decide) same

/-! ### Files -/

theorem fields_rowsFrom (separator : Separator) {records : List (List Bytes)}
    (some : ∀ fields ∈ records, fields ≠ []) (here : Place) :
    (rowsFrom separator here here .between (records.flatMap (writeRecord separator))).map
      Row.fields = records := by
  induction records generalizing here with
  | nil => rfl
  | cons fields records ih =>
      have first := some fields List.mem_cons_self
      have others := ih fun more member => some more (List.mem_cons_of_mem fields member)
      simp [rowsFrom_writeRecord first, others]

/-- The records of a written table, its header as it is read back. -/
theorem fields_rows_write (separator : Separator) {header : List String}
    (wide : 2 ≤ header.length) {records : List (List String)}
    (some : ∀ fields ∈ records, fields ≠ []) :
    (rows separator (write separator (header :: records))).map Row.fields =
      (unmarked separator header :: records).map (·.map encode) := by
  obtain _ | ⟨h, _ | ⟨next, more⟩⟩ := header
  · simp at wide
  · simp at wide
  let body : Bytes := records.flatMap fun fields => writeRecord separator (fields.map encode)
  have record (s : String) : writeRecord separator ((s :: next :: more).map encode) ++ body =
      writeField separator (encode s) ++ separator.byte ::
        (writeFields separator ((next :: more).map encode) ++ Text.lineFeed :: body) := by
    simp [writeRecord, writeFields]
  have full : ∀ fields ∈ records.map (·.map encode), fields ≠ [] := by simpa using some
  have whole : write separator ((h :: next :: more) :: records) =
      writeRecord separator ((h :: next :: more).map encode) ++ body := rfl
  obtain ⟨here, read⟩ := rows_writeField separator h
    (writeFields separator ((next :: more).map encode) ++ Text.lineFeed :: body)
  rw [whole, record, read, ← record, rowsFrom_writeRecord (by simp)]
  have others := fields_rowsFrom separator full
  simp only [List.flatMap_map] at others
  simp [unmarked, body, others]

theorem texts_encode (fields : List String) (number : Nat) :
    texts number (fields.map encode) = .ok fields := by
  induction fields generalizing number with
  | nil => rfl
  | cons s fields ih => simp [texts, Text.decode?_encode, ih, Except.map]

theorem Row.texts_encode {row : Row} {fields : List String}
    (same : row.fields = fields.map encode) (number : Nat) :
    row.texts number fields.length = .ok fields := by
  have read := Delimited.texts_encode fields 0
  have width : row.fields.length = fields.length := by simp [same]
  rw [Row.texts, if_neg (not_not_intro width), same, read]
  rfl

theorem texts_zipIdx {rows : List Row} {records : List (List String)} {width : Nat}
    (same : rows.map Row.fields = records.map (·.map encode))
    (even : ∀ fields ∈ records, fields.length = width) (number : Nat) :
    ((rows.zipIdx number).map fun entry => entry.1.texts entry.2 width) = records.map .ok := by
  induction rows generalizing records number with
  | nil =>
      cases records with
      | nil => rfl
      | cons fields records => simp at same
  | cons row rows ih =>
      cases records with
      | nil => simp at same
      | cons fields records =>
          simp only [List.map_cons, List.cons.injEq] at same
          obtain ⟨here, others⟩ := same
          have length := even fields List.mem_cons_self
          have first := row.texts_encode here number
          have more := ih others fun more member => even more (List.mem_cons_of_mem fields member)
          subst length
          simp [more, first]

/-- What is written is read back, the header without a mark that counts as that of the file. -/
theorem read_write {header : List String} (wide : 2 ≤ header.length)
    {records : List (List String)} (even : ∀ fields ∈ records, fields.length = header.length) :
    read separator (write separator (header :: records)) =
      ⟨.ok (unmarked separator header), records.map .ok⟩ := by
  have some : ∀ fields ∈ records, fields ≠ [] := by
    rintro fields member rfl
    have := even [] member
    simp at this
    omega
  have length : (unmarked separator header).length = header.length := by
    cases header <;> rfl
  have fields := fields_rows_write separator wide some
  unfold read
  cases found : rows separator (write separator (header :: records)) with
  | nil => simp [found] at fields
  | cons first others =>
      simp only [found, List.map_cons, List.cons.injEq] at fields
      obtain ⟨head, others⟩ := fields
      have width : first.fields.length = (unmarked separator header).length := by simp [head]
      simp only [width, first.texts_encode head 0, Table.mk.injEq, true_and]
      exact texts_zipIdx others (fun fields member => (even fields member).trans length.symm) 1

/-! ### The width of tables -/

theorem length_of_texts {number : Nat} {fields : List Bytes} {read : List String}
    (good : texts number fields = .ok read) : read.length = fields.length := by
  induction fields generalizing number read with
  | nil =>
      obtain rfl := Except.ok.inj good
      rfl
  | cons field fields ih =>
      unfold texts at good
      split at good
      · contradiction
      · obtain ⟨more, others, rfl⟩ := map_eq_ok_iff.mp good
        simp [ih others]

theorem Row.length_of_texts {row : Row} {number expected : Nat} {read : List String}
    (good : row.texts number expected = .ok read) : read.length = expected := by
  unfold Row.texts at good
  split at good
  · contradiction
  · rename_i width
    have fields := mapError_eq_ok_iff.mp good
    exact (Delimited.length_of_texts fields).trans (not_not.mp width)

/-- Every record that is not refused is as wide as the header, whatever the file. -/
theorem length_of_read {bytes : Bytes} {header : List String}
    (headed : (read separator bytes).header = .ok header) {fields : List String}
    (member : .ok fields ∈ (read separator bytes).records) : fields.length = header.length := by
  unfold read at headed member
  cases found : rows separator bytes with
  | nil => simp [found] at member
  | cons first others =>
      simp only [found, List.mem_map] at headed member
      obtain ⟨⟨row, number⟩, _, good⟩ := member
      exact (Row.length_of_texts good).trans (Row.length_of_texts headed).symm

/-! ### The first line -/

/-- The characters of a written field. -/
def fieldChars (separator : Separator) (s : String) : List Char :=
  if needsQuotes separator (encode s) then
    '"' :: ((s.toList.flatMap fun c => if c = '"' then ['"', '"'] else [c]) ++ ['"'])
  else s.toList

/-- The characters of written fields with separators between them. -/
def fieldsChars (separator : Separator) : List String → List Char
  | [] => []
  | [s] => fieldChars separator s
  | s :: fields => fieldChars separator s ++ separator.char :: fieldsChars separator fields

theorem doubleQuotes_append (bytes more : Bytes) :
    doubleQuotes (bytes ++ more) = doubleQuotes bytes ++ doubleQuotes more := by
  simp [doubleQuotes]

theorem doubleQuotes_eq_self {bytes : Bytes} (absent : quote ∉ bytes) :
    doubleQuotes bytes = bytes := by
  induction bytes with
  | nil => rfl
  | cons b bytes ih =>
      obtain ⟨other, later⟩ := List.ne_and_not_mem_of_not_mem_cons absent
      rw [doubleQuotes_other other.symm, ih later]

theorem doubleQuotes_encodeChars (cs : List Char) :
    doubleQuotes (encodeChars cs) =
      encodeChars (cs.flatMap fun c => if c = '"' then ['"', '"'] else [c]) := by
  induction cs with
  | nil => rfl
  | cons c cs ih =>
      rw [Text.encodeChars_cons, doubleQuotes_append, ih, List.flatMap_cons,
        Text.encodeChars_append]
      congr 1
      by_cases same : c = '"'
      · subst same
        rfl
      · rw [if_neg same, Text.encodeChars_cons, Text.encodeChars_nil, List.append_nil]
        refine doubleQuotes_eq_self fun member => same ?_
        have inside : quote ∈ encodeChars [c] := by simpa using member
        obtain ⟨d, here, code⟩ := Text.mem_encodeChars_ascii (by decide) inside
        rw [List.mem_singleton] at here
        exact Char.toNat_inj.mp (here ▸ code)

theorem writeField_encode (separator : Separator) (s : String) :
    writeField separator (encode s) = encodeChars (fieldChars separator s) := by
  have marks : String.utf8EncodeChar '"' = [quote] := rfl
  unfold writeField fieldChars
  split
  · simp [quoteField, Text.encode_eq_flatMap, doubleQuotes_encodeChars, marks]
  · rw [Text.encode_eq_flatMap]

theorem writeFields_encode (separator : Separator) (fields : List String) :
    writeFields separator (fields.map encode) = encodeChars (fieldsChars separator fields) := by
  have byte : String.utf8EncodeChar separator.char = [separator.byte] := by cases separator <;> rfl
  induction fields with
  | nil => rfl
  | cons s fields ih =>
      cases fields with
      | nil => exact writeField_encode separator s
      | cons next fields =>
          simp only [List.map_cons] at ih
          simp [writeFields, fieldsChars, writeField_encode, ih, byte]

theorem mem_fieldsChars {fields : List String} {c : Char}
    (member : c ∈ fieldsChars separator fields) :
    c = '"' ∨ c = separator.char ∨ ∃ s ∈ fields, c ∈ s.toList := by
  have inField {s : String} (within : c ∈ fieldChars separator s) : c = '"' ∨ c ∈ s.toList := by
    unfold fieldChars at within
    grind
  induction fields with
  | nil => simp [fieldsChars] at member
  | cons s fields ih =>
      cases fields with
      | nil =>
          rcases inField member with quoted | within
          · exact .inl quoted
          · exact .inr (.inr ⟨s, List.mem_cons_self, within⟩)
      | cons next fields =>
          rcases List.mem_append.mp member with here | later
          · rcases inField here with quoted | within
            · exact .inl quoted
            · exact .inr (.inr ⟨s, List.mem_cons_self, within⟩)
          · rcases List.mem_cons.mp later with between | later
            · exact .inr (.inl between)
            · rcases ih later with quoted | between | ⟨s', member, within⟩
              · exact .inl quoted
              · exact .inr (.inl between)
              · exact .inr (.inr ⟨s', List.mem_cons_of_mem s member, within⟩)

/-- A written file begins with its line of headers. -/
theorem write_cons (separator : Separator) {header : List String} (wide : 2 ≤ header.length)
    (records : List (List String)) :
    write separator (header :: records) =
      encodeChars (fieldsChars separator header) ++ Text.lineFeed :: write separator records := by
  have several : header.map encode ≠ [[]] := by
    intro single
    have := congrArg List.length single
    simp at this
    omega
  simp [write, writeRecord, several, writeFields_encode]

/-- The first line of a file that begins with characters is read as those up to their line feed. -/
theorem decode?_firstLine {front : List Char} (absent : '\n' ∉ front) (rest : Bytes) :
    Text.decode? (Text.firstLine (encodeChars front ++ Text.lineFeed :: rest)) =
      some (String.ofList (front ++ ['\n'])) := by
  have plain : Text.lineFeed ∉ encodeChars front := fun member =>
    absent (Text.lineFeed_mem_encodeChars member)
  have line : encodeChars front ++ [Text.lineFeed] = encode (String.ofList (front ++ ['\n'])) := by
    rw [Text.encode_ofList, Text.encodeChars_append]
    rfl
  rw [Text.firstLine_append plain, line, Text.decode?_encode]

/-- The first line of a file whose headers hold no line feed is its line of headers. -/
theorem firstLine_write (separator : Separator) {header : List String} (wide : 2 ≤ header.length)
    (oneLine : ∀ h ∈ header, '\n' ∉ h.toList) (records : List (List String)) :
    Text.decode? (Text.firstLine (write separator (header :: records))) =
      some (String.ofList (fieldsChars separator header ++ ['\n'])) := by
  have absent : '\n' ∉ fieldsChars separator header := by
    intro member
    rcases mem_fieldsChars member with h | h | ⟨h, within, here⟩
    · contradiction
    · cases separator <;> contradiction
    · exact oneLine h within here
  rw [write_cons separator wide, decode?_firstLine absent]

theorem separator_mem_fieldsChars {header : List String} (wide : 2 ≤ header.length) :
    separator.char ∈ fieldsChars separator header := by
  obtain _ | ⟨h, _ | ⟨next, more⟩⟩ := header
  · simp at wide
  · simp at wide
  · simp [fieldsChars]

/-- A file of several columns whose headers hold no line feed is taken for what it is. -/
theorem ofFirstLine_write {header : List String} (wide : 2 ≤ header.length)
    (oneLine : ∀ h ∈ header, '\n' ∉ h.toList) (records : List (List String)) :
    ∃ line, Text.decode? (Text.firstLine (write .semicolon (header :: records))) = some line ∧
      Separator.ofFirstLine line = .semicolon := by
  have between : ';' ∈ fieldsChars .semicolon header := separator_mem_fieldsChars wide
  refine ⟨_, firstLine_write .semicolon wide oneLine records, ?_⟩
  simp [Separator.ofFirstLine, between]

/-- A file with commas whose headers hold no semicolon either is taken for what it is, too. -/
theorem ofFirstLine_write_comma {header : List String} (wide : 2 ≤ header.length)
    (oneLine : ∀ h ∈ header, '\n' ∉ h.toList) (plain : ∀ h ∈ header, ';' ∉ h.toList)
    (records : List (List String)) :
    ∃ line, Text.decode? (Text.firstLine (write .comma (header :: records))) = some line ∧
      Separator.ofFirstLine line = .comma := by
  have between : ',' ∈ fieldsChars .comma header := separator_mem_fieldsChars wide
  have absent : ';' ∉ fieldsChars .comma header := by
    intro member
    rcases mem_fieldsChars member with h | h | ⟨h, within, here⟩
    · contradiction
    · contradiction
    · exact plain h within here
  refine ⟨_, firstLine_write .comma wide oneLine records, ?_⟩
  simp [Separator.ofFirstLine, between, absent]

/-- A file with semicolons whose headers hold no comma is taken for what it is, also where its
headers hold line feeds. -/
theorem ofFirstLine_write_of_commaless {header : List String} (wide : 2 ≤ header.length)
    (commaless : ∀ h ∈ header, ',' ∉ h.toList) (records : List (List String)) :
    ∃ line, Text.decode? (Text.firstLine (write .semicolon (header :: records))) = some line ∧
      Separator.ofFirstLine line = .semicolon := by
  -- The first line may end within a header, so it is some front of the line of headers.
  have ends : '\n' ∈ fieldsChars .semicolon header ++ ['\n'] := by simp
  obtain ⟨front, back, split, absent⟩ := List.eq_append_cons_of_mem ends
  have file : write .semicolon (header :: records) = encodeChars front ++
      Text.lineFeed :: (encodeChars back ++ write .semicolon records) := by
    have whole : encodeChars (fieldsChars .semicolon header) ++ [Text.lineFeed] =
        encodeChars front ++ Text.lineFeed :: encodeChars back := by
      simpa [Text.utf8EncodeChar_lineFeed] using congrArg encodeChars split
    rw [write_cons _ wide, List.append_cons, whole, List.append_assoc, List.cons_append]
  have plain : ',' ∉ front ++ ['\n'] := by
    intro member
    have inLine : ',' ∈ fieldsChars .semicolon header ++ ['\n'] := by
      rw [split]
      grind
    have within : ',' ∈ fieldsChars .semicolon header := by simpa using inLine
    rcases mem_fieldsChars within with h | h | ⟨h, here, comma⟩
    · contradiction
    · contradiction
    · exact commaless h here comma
  refine ⟨_, by rw [file, decode?_firstLine absent], ?_⟩
  rw [Separator.ofFirstLine, String.toList_ofList, if_neg]
  simp only [List.contains_iff_mem, Bool.and_eq_true, not_and]
  exact fun _ => plain

/-- Headers that a file can have with either separator: none holds a line feed or a semicolon. -/
def PlainHeader (header : List String) : Prop :=
  ∀ h ∈ header, '\n' ∉ h.toList ∧ ';' ∉ h.toList

theorem ofFirstLine_write_plain (separator : Separator) {header : List String}
    (wide : 2 ≤ header.length) (plain : PlainHeader header) (records : List (List String)) :
    ∃ line, Text.decode? (Text.firstLine (write separator (header :: records))) = some line ∧
      Separator.ofFirstLine line = separator := by
  have oneLine : ∀ h ∈ header, '\n' ∉ h.toList := fun h member => (plain h member).1
  cases separator with
  | semicolon => exact ofFirstLine_write wide oneLine records
  | comma =>
      exact ofFirstLine_write_comma wide oneLine (fun h member => (plain h member).2) records

end GivenNames.Delimited
