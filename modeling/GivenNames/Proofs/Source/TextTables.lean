import GivenNames.Proofs.Source.Tables

/-!
One table of texts in two formats.

A table whose cells are texts can be kept as a delimited file and as a columnar one. What can be read
of its rows does not depend on the format (`reading_ofFields`, `reading_ofCells`), so both loaders
come to one verdict. Main statement: either both give the registrations of all rows, or both stop at
the same row with the same check (`load_verdict`).
-/

namespace GivenNames

/-- A table of texts, with as many cells in each row as there are headers. -/
structure TextTable where
  header : List String
  rows : List (List String)
  even : ∀ row ∈ rows, row.length = header.length

namespace TextTable

open RowCells (ofCells ofFields)

/-- The table as a file with semicolons, its cells in quotes where they need them. -/
def toDelimited (t : TextTable) : Text.Bytes :=
  Delimited.write .semicolon (t.header :: t.rows)

/-- A cell of a column of texts. -/
def cell (s : String) : Columnar.Cell :=
  ⟨.utf8, some s⟩

/-- A table with columns of texts whose rows come in these batches. -/
def toColumnar (t : TextTable) (cut : List (List (List String))) : Columnar.Table :=
  ⟨t.header, cut.map (·.map (·.map cell))⟩

/-- The text of a column. -/
def textAt (layout : Layout) (row : List String) (c : Column) : Option String :=
  row[layout.position c]?

/-- The integer of a column; there may be blanks around it. -/
def integerAt (layout : Layout) (row : List String) (c : Column) : Option Int :=
  (textAt layout row c).bind fun s => (Integer.read (Text.trimChars s.toList)).toOption

/-- What can be read of a row of texts. -/
def reading (layout : Layout) (row : List String) : Reading where
  year := integerAt layout row .year
  district := textAt layout row .district
  gender := integerAt layout row .gender
  name := textAt layout row .name
  count := integerAt layout row .count

/-- What the loading of a table from two paths, in two formats, comes to, given what can be read of
its rows: the registry that holds the registrations of all rows, or a fault of the same check in the
same row. The delimited file counts its lines from 1, of which the header takes one. -/
inductive Verdict (readings : List Reading) (path path' : String) :
    Except LoadError Registry → Except LoadError Registry → Prop
  | loaded {rs : List Registration} {registry : Registry} (read : readings = rs.map .of)
      (held : registry.registrations = rs) (built : registry = .ofList rs) :
      Verdict readings path path' (.ok registry) (.ok registry)
  | refused {before : List Registration} {bad : Reading} {after : List Reading} {check : Check}
      {first second : RowFault} {more : String}
      (read : readings = before.map .of ++ bad :: after) (fails : bad.failing? = some check)
      (here : first.check = check) (there : second.check = check)
      (line : (SourceFault.delimitedRow (before.length + 1) first).causes.head? =
        some ("CSV line " ++ Integer.natText (before.length + 2)))
      (row : (SourceFault.columnarRow before.length second).causes.head? =
        some ("Row " ++ Integer.natText before.length ++ more)) :
      Verdict readings path path'
        (.error (.failed path (.delimitedRow (before.length + 1) first)))
        (.error (.failed path' (.columnarRow before.length second)))

/-! ### What can be read of a row -/

theorem integer_ofFields (layout : Layout) (row : List String) (c : Column) :
    ((ofFields layout row).integer c).toOption = integerAt layout row c := by
  simp only [ofFields, RowCells.fieldInteger, RowCells.fieldText, integerAt, textAt]
  cases row[layout.position c]? with
  | none => rfl
  | some s =>
      simp only [Text.trim, String.toList_ofList, Option.bind_some]
      cases Integer.read (Text.trimChars s.toList) <;> rfl

theorem text_ofFields {layout : Layout} {row : List String} {c : Column}
    (trimmed : ∀ s ∈ textAt layout row c, Text.trim s = s) :
    ((ofFields layout row).text c).toOption = textAt layout row c := by
  simp only [ofFields, RowCells.fieldText, textAt] at trimmed ⊢
  cases found : row[layout.position c]? with
  | none => rfl
  | some s =>
      simp only [trimmed s found]
      rfl

theorem reading_ofFields {layout : Layout} {row : List String}
    (trimmed : ∀ c ∈ [Column.district, .name], ∀ s ∈ textAt layout row c, Text.trim s = s) :
    (ofFields layout row).reading = reading layout row := by
  have district := text_ofFields (trimmed .district (by decide))
  have name := text_ofFields (trimmed .name (by decide))
  simp only [RowCells.reading, reading, integer_ofFields, district, name]

theorem integer_ofCells (layout : Layout) (row : List String) (c : Column) :
    ((ofCells layout (row.map cell)).integer c).toOption = integerAt layout row c := by
  simp only [ofCells, RowCells.contentAt, List.getElem?_map, integerAt, textAt]
  cases row[layout.position c]? with
  | none => rfl
  | some s =>
      simp only [Option.map_some, cell, Columnar.Cell.content, RowCells.contentInteger,
        Option.bind_some]
      cases Integer.read (Text.trimChars s.toList) <;> rfl

theorem text_ofCells (layout : Layout) (row : List String) (c : Column) :
    ((ofCells layout (row.map cell)).text c).toOption = textAt layout row c := by
  simp only [ofCells, RowCells.contentAt, List.getElem?_map, textAt]
  cases row[layout.position c]? <;> rfl

theorem reading_ofCells (layout : Layout) (row : List String) :
    (ofCells layout (row.map cell)).reading = reading layout row := by
  simp only [RowCells.reading, reading, integer_ofCells, text_ofCells]

/-! ### Messages -/

theorem head?_causes_columnarRow (row : Nat) (fault : RowFault) :
    ∃ more, (SourceFault.columnarRow row fault).causes.head? =
      some ("Row " ++ Integer.natText row ++ more) := by
  cases fault with
  | cell column fault =>
      exact ⟨": failed to read " ++ Text.inApostrophes column.label, by
        simp [SourceFault.causes, RowFault.rowCauses, String.append_assoc]⟩
  | value fault =>
      cases fault with
      | yearOutOfRange year reason =>
          exact ⟨": year " ++ Integer.text year ++ " out of range", by
            simp [SourceFault.causes, RowFault.rowCauses, String.append_assoc]⟩
      | genderOutOfRange code reason =>
          exact ⟨"", by simp [SourceFault.causes, RowFault.rowCauses]⟩
      | unknownGender code => exact ⟨"", by simp [SourceFault.causes, RowFault.rowCauses]⟩
      | negativeCount count reason =>
          exact ⟨"", by simp [SourceFault.causes, RowFault.rowCauses]⟩

/-! ### Both formats -/

section Formats

variable {t : TextTable} {layout : Layout}

theorem delimited_toDelimited (located : Layout.ofHeaders t.header = .ok layout)
    (oneLine : ∀ h ∈ t.header, '\n' ∉ h.toList) :
    Load.delimited (.bytes t.toDelimited) =
      Load.scan (ofFields layout) .delimitedRow 1 t.rows :=
  Load.delimited_write located oneLine t.even

theorem columnar_toColumnar (located : Layout.ofHeaders t.header = .ok layout)
    {cut : List (List (List String))} (whole : cut.flatten = t.rows) :
    Load.columnar (.table (t.toColumnar cut)) =
      Load.scan (ofCells layout) .columnarRow 0 (t.rows.map (·.map cell)) := by
  rw [toColumnar, Load.columnar_table located, ← whole, List.map_flatten]

/-- A table of texts with the five columns, its headers on one line and its districts and names
without blanks around them, comes to one verdict in both formats, wherever the columnar one is cut;
and in no delimited source is a value reported as missing. -/
theorem load_verdict {path path' : String}
    (delimited : Format.ofExtension? (Path.extension path) = some .delimited)
    (columnar : Format.ofExtension? (Path.extension path') = some .columnar)
    (located : Layout.ofHeaders t.header = .ok layout)
    (oneLine : ∀ h ∈ t.header, '\n' ∉ h.toList)
    (trimmed : ∀ row ∈ t.rows, ∀ c ∈ [Column.district, .name],
      ∀ s ∈ textAt layout row c, Text.trim s = s)
    {cut : List (List (List String))} (whole : cut.flatten = t.rows) :
    Verdict (t.rows.map (reading layout)) path path' (load path (.bytes t.toDelimited))
        (load path' (.table (t.toColumnar cut))) ∧
      ∀ content n c, Load.delimited content ≠ .error (.delimitedRow n (.cell c .absent)) := by
  refine ⟨?_, Load.delimited_ne_absent⟩
  have fields : (t.rows.map fun row => (ofFields layout row).reading) =
      t.rows.map (reading layout) :=
    List.map_congr_left fun row member => reading_ofFields (trimmed row member)
  have cells : ((t.rows.map (·.map cell)).map fun row => (ofCells layout row).reading) =
      t.rows.map (reading layout) := by
    rw [List.map_map]
    exact List.map_congr_left fun row _ => reading_ofCells layout row
  have words : ∀ r ∈ t.rows.map (reading layout), ∀ n ∈ r.count, Integer.InInt64 n := by
    rw [← cells]
    intro r member n count
    obtain ⟨row, _, rfl⟩ := List.mem_map.mp member
    exact RowCells.inInt64_of_cells (toOption_eq_some_iff.mp count)
  simp only [load, delimited, columnar, Load.registrations, delimited_toDelimited located oneLine,
    columnar_toColumnar located whole]
  rcases Reading.all_or_first_failing words with
    ⟨rs, all⟩ | ⟨before, bad, after, check, stop, fails⟩
  · have first : Load.scan (ofFields layout) .delimitedRow 1 t.rows = .ok rs :=
      Load.scan_of_readings (fields.trans all) 1
    have second : Load.scan (ofCells layout) .columnarRow 0 (t.rows.map (·.map cell)) = .ok rs :=
      Load.scan_of_readings (cells.trans all) 0
    rw [first, second]
    exact .loaded all rfl rfl
  · obtain ⟨f, here, first⟩ := Load.scan_of_failing
      (fun _ _ _ read => RowCells.inInt64_of_fields read) (fields.trans stop) fails 1
    obtain ⟨g, there, second⟩ := Load.scan_of_failing
      (fun _ _ _ read => RowCells.inInt64_of_cells read) (cells.trans stop) fails 0
    obtain ⟨more, row⟩ := head?_causes_columnarRow before.length g
    rw [first, second, Nat.zero_add, Nat.add_comm 1]
    exact .refused stop fails here there rfl row

/-- Columns in another order and one that is not asked for, a mark in front, cells that need quotes,
blanks around integers, and a second row that fails several checks. -/
def tangledSample : TextTable where
  header := ["\ufeffName", "C-JAHR-0", "District", "gender", "Count", "a;\"b\""]
  rows := [["\u00c4;\"x\"\ny", " 1990 ", "101", "2\u3000", "+007", ""],
    ["Eva", "99999999999", "", "x", "-1", "z"]]
  even := by decide

theorem load_verdict_tangledSample :
    tangledSample.rows.map (fun row => (reading ⟨1, 2, 3, 0, 4⟩ row).failing?) =
        [none, some .yearRange] ∧
      Verdict (tangledSample.rows.map (reading ⟨1, 2, 3, 0, 4⟩)) "a.csv" "b.pq"
        (load "a.csv" (.bytes tangledSample.toDelimited))
        (load "b.pq"
          (.table (tangledSample.toColumnar (tangledSample.rows.map fun row => [row])))) := by
  have located : Layout.ofHeaders tangledSample.header = .ok ⟨1, 2, 3, 0, 4⟩ := rfl
  exact ⟨by decide, (load_verdict (by decide) (by decide) located (by decide) (by decide) rfl).1⟩

end Formats

end TextTable

end GivenNames
