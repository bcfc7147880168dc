import GivenNames.Proofs.Source.Tables
import Mathlib.Logic.Relation

/-!
Tables in other arrangements.

Columns can be put in another order, their headers can be spelled in another way, and columns that
no registration is read from can be added or removed (`Rearranges`). None of it alters the cells
that each column of registrations is filled with: one change does not (`Provides.rearranged`), so no
number of them does (`Provides.of_steps`). A table is loaded as if it had nothing but these columns,
in the order in which they are looked for (`delimited_eq_standard`, `columnar_eq_standard`). Main
statement: the registrations or the fault that tables are loaded with do not depend on their
arrangement, nor on the separator or on the batches (`Load.eq_of_rearranged`).
-/

namespace GivenNames

/-! ### Rows in other layouts -/

namespace RowCells

theorem ofFields_congr {layout layout' : Layout} {fields fields' : List String}
    (same : ∀ c, fields[layout.position c]? = fields'[layout'.position c]?) :
    ofFields layout fields = ofFields layout' fields' := by
  simp only [ofFields, fieldInteger, fieldText, same]

theorem ofCells_congr {layout layout' : Layout} {cells cells' : List Columnar.Cell}
    (same : ∀ c, cells[layout.position c]? = cells'[layout'.position c]?) :
    ofCells layout cells = ofCells layout' cells' := by
  simp only [ofCells, contentAt, same]

end RowCells

/-- The layout of a table with the five columns only, in the order in which they are looked for. -/
def Layout.standard : Layout :=
  ⟨0, 1, 2, 3, 4⟩

/-! ### Columns with their headers -/

/-- A column of a table of this height: its header, and its cells from top to bottom. -/
structure TableColumn (α : Type) (height : Nat) where
  header : String
  cells : Vector α height

namespace TableColumn

variable {α : Type} {height : Nat} {columns columns' : List (TableColumn α height)}

/-- The headers of columns side by side. -/
def headers (columns : List (TableColumn α height)) : List String :=
  columns.map header

/-- The cells at a place of columns side by side. -/
def row (columns : List (TableColumn α height)) (place : Fin height) : List α :=
  columns.map fun column => column.cells[place]

/-- The rows of columns side by side. -/
def rows (columns : List (TableColumn α height)) : List (List α) :=
  List.ofFn (row columns)

/-- Columns as a delimited file, its cells in quotes where they need them. -/
def written (separator : Delimited.Separator) (columns : List (TableColumn String height)) :
    Text.Bytes :=
  Delimited.write separator (headers columns :: rows columns)

/-- What may be changed of an arrangement at a time. -/
inductive Rearranges : List (TableColumn α height) → List (TableColumn α height) → Prop
  | reorder {columns columns' : List (TableColumn α height)} (order : columns.Perm columns') :
      Rearranges columns columns'
  | respell (front back : List (TableColumn α height)) {cells : Vector α height}
      {header header' : String} (c : Column) (old : c.isNamedBy header = true)
      (new : c.isNamedBy header' = true) :
      Rearranges (front ++ ⟨header, cells⟩ :: back) (front ++ ⟨header', cells⟩ :: back)
  | add (front back : List (TableColumn α height)) {column : TableColumn α height}
      (strange : ∀ c : Column, c.isNamedBy column.header = false) :
      Rearranges (front ++ back) (front ++ column :: back)
  | remove (front back : List (TableColumn α height)) {column : TableColumn α height}
      (strange : ∀ c : Column, c.isNamedBy column.header = false) :
      Rearranges (front ++ column :: back) (front ++ back)

/-- Each column of registrations is named by exactly one header. -/
def Complete (columns : List (TableColumn α height)) : Prop :=
  ∀ c : Column, (columns.filter fun column => c.isNamedBy column.header).length = 1

/-! ### What columns are filled with -/

/-- Each column of registrations is named by one header only and filled with these cells. -/
def Provides (columns : List (TableColumn α height)) (filled : Column → Vector α height) : Prop :=
  ∀ c : Column,
    (columns.filter fun column => c.isNamedBy column.header).map cells = [filled c]

variable {filled : Column → Vector α height}

theorem Complete.provides (complete : Complete columns) : ∃ filled, Provides columns filled := by
  choose column single using fun c => List.length_eq_one_iff.mp (complete c)
  exact ⟨fun c => (column c).cells, fun c => by rw [single, List.map_singleton]⟩

/-- No change of the arrangement alters what columns are filled with. -/
theorem Provides.rearranged (provides : Provides columns filled)
    (step : Rearranges columns columns') : Provides columns' filled := by
  intro c
  have here := provides c
  cases step with
  | reorder order =>
      have moved := (order.filter fun column => c.isNamedBy column.header).map cells
      rw [here] at moved
      exact List.perm_singleton.mp moved.symm
  | @respell front back _ header header' d old new =>
      by_cases same : c = d
      · subst same
        simpa [old, new] using here
      · have before : c.isNamedBy header = false :=
          Bool.eq_false_iff.mpr fun named => same (Column.eq_of_isNamedBy named old)
        have after : c.isNamedBy header' = false :=
          Bool.eq_false_iff.mpr fun named => same (Column.eq_of_isNamedBy named new)
        simpa [before, after] using here
  | add front back strange => simpa [strange c] using here
  | remove front back strange => simpa [strange c] using here

theorem Provides.of_steps (provides : Provides columns filled)
    (steps : Relation.ReflTransGen Rearranges columns columns') : Provides columns' filled := by
  induction steps with
  | refl => exact provides
  | tail _ step ih => exact ih.rearranged step

/-- A column that is filled is found, and at its position every row has its cell. -/
theorem Provides.find (provides : Provides columns filled) (c : Column) :
    ∃ position, Layout.find (headers columns) c = .ok position ∧
      ∀ place : Fin height, (row columns place)[position]? = some (filled c)[place] := by
  have single := provides c
  have named : (headers columns).any c.isNamedBy = true := by
    obtain ⟨column, member, -⟩ := List.mem_map.mp (single ▸ List.mem_singleton_self (filled c))
    obtain ⟨listed, named⟩ := List.mem_filter.mp member
    exact List.any_eq_true.mpr ⟨_, List.mem_map_of_mem listed, named⟩
  rw [← List.findIdx?_isSome, Option.isSome_iff_exists] at named
  obtain ⟨position, first⟩ := named
  have found : Layout.find (headers columns) c = .ok position := by rw [Layout.find, first]
  refine ⟨position, found, fun place => ?_⟩
  obtain ⟨h, here, names⟩ := Layout.find_eq_ok found
  rw [headers, List.getElem?_map, Option.map_eq_some_iff] at here
  obtain ⟨column, here, rfl⟩ := here
  have kept : column ∈ columns.filter fun column => c.isNamedBy column.header :=
    List.mem_filter.mpr ⟨List.mem_of_getElem? here, names⟩
  have cells : column.cells = filled c := by
    have member := List.mem_map_of_mem (f := TableColumn.cells) kept
    rwa [single, List.mem_singleton] at member
  rw [row, List.getElem?_map, here, Option.map_some, cells]

theorem Provides.located (provides : Provides columns filled) :
    ∃ layout, Layout.ofHeaders (headers columns) = .ok layout ∧
      ∀ c (place : Fin height),
        (row columns place)[layout.position c]? = some (filled c)[place] := by
  choose position found here using provides.find
  obtain ⟨layout, spread⟩ : ∃ layout : Layout, ∀ c, layout.position c = position c :=
    ⟨⟨position .year, position .district, position .gender, position .name, position .count⟩,
      fun c => by cases c <;> rfl⟩
  refine ⟨layout, Layout.ofHeaders_eq_ok_iff.mpr fun c => ?_, fun c place => ?_⟩
  · rw [spread, found]
  · rw [spread, here]

/-! ### The standard arrangement -/

/-- The rows of a table with the five columns only, in the order in which they are looked for. -/
def standardRows (filled : Column → Vector α height) : List (List α) :=
  List.ofFn fun place : Fin height => Column.all.map fun c => (filled c)[place]

theorem getElem?_standard (filled : Column → Vector α height) (place : Fin height) (c : Column) :
    (Column.all.map fun c => (filled c)[place])[Layout.standard.position c]? =
      some (filled c)[place] := by
  cases c <;> rfl

/-- Rows are scanned as those of the standard arrangement if their cells are read alike. -/
theorem scan_eq_standard {read : Layout → List α → RowCells}
    (congr : ∀ {layout layout' : Layout} {cells cells' : List α},
      (∀ c, cells[layout.position c]? = cells'[layout'.position c]?) →
        read layout cells = read layout' cells')
    {layout : Layout}
    (here : ∀ c (place : Fin height),
      (row columns place)[layout.position c]? = some (filled c)[place])
    (fault : Nat → RowFault → SourceFault) (number : Nat) :
    Load.scan (read layout) fault number (rows columns) =
      Load.scan (read .standard) fault number (standardRows filled) := by
  refine Load.scan_congr ?_ number
  rw [rows, standardRows, List.map_ofFn, List.map_ofFn]
  refine congrArg List.ofFn (funext fun place => congr fun c => ?_)
  rw [here, getElem?_standard]

theorem delimited_eq_standard {columns : List (TableColumn String height)}
    {filled : Column → Vector String height} (provides : Provides columns filled)
    (plain : Delimited.PlainHeader (headers columns)) (separator : Delimited.Separator) :
    Load.delimited (.bytes (written separator columns)) =
      Load.scan (RowCells.ofFields .standard) .delimitedRow 1 (standardRows filled) := by
  obtain ⟨layout, located, here⟩ := provides.located
  have wide := Layout.two_le_length located
  have even : ∀ fields ∈ rows columns, fields.length = (headers columns).length := by
    intro fields member
    obtain ⟨place, rfl⟩ := List.mem_ofFn.mp member
    rw [row, headers, List.length_map, List.length_map]
  have guessed := Delimited.ofFirstLine_write_plain separator wide plain (rows columns)
  rw [written, Load.delimited_of_guessed located guessed even]
  exact scan_eq_standard RowCells.ofFields_congr here _ _

theorem columnar_eq_standard {columns : List (TableColumn Columnar.Cell height)}
    {filled : Column → Vector Columnar.Cell height} (provides : Provides columns filled)
    {cut : List (List (List Columnar.Cell))} (whole : cut.flatten = rows columns) :
    Load.columnar (.table ⟨headers columns, cut⟩) =
      Load.scan (RowCells.ofCells .standard) .columnarRow 0 (standardRows filled) := by
  obtain ⟨layout, located, here⟩ := provides.located
  rw [Load.columnar_table located, whole]
  exact scan_eq_standard RowCells.ofCells_congr here _ _

end TableColumn

open Delimited (PlainHeader)
open TableColumn (Complete Rearranges headers rows written)

/-- Tables that name each of the five columns once are loaded with one result, registrations or
fault, in whatever arrangement: as delimited files with either separator, if no header holds a
semicolon or a line feed, and as columnar tables in whatever batches. -/
theorem Load.eq_of_rearranged {height height' : Nat}
    {texts texts' : List (TableColumn String height)} (complete : Complete texts)
    (steps : Relation.ReflTransGen Rearranges texts texts') (plain : PlainHeader (headers texts))
    (plain' : PlainHeader (headers texts'))
    {typed typed' : List (TableColumn Columnar.Cell height')}
    (completeTyped : Complete typed) (stepsTyped : Relation.ReflTransGen Rearranges typed typed') :
    (∀ separator separator' : Delimited.Separator,
      delimited (.bytes (written separator texts)) =
        delimited (.bytes (written separator' texts'))) ∧
      ∀ cut cut' : List (List (List Columnar.Cell)), cut.flatten = rows typed →
        cut'.flatten = rows typed' →
        columnar (.table ⟨headers typed, cut⟩) = columnar (.table ⟨headers typed', cut'⟩) := by
  obtain ⟨filled, provides⟩ := complete.provides
  obtain ⟨filledTyped, providesTyped⟩ := completeTyped.provides
  constructor
  · intro separator separator'
    rw [TableColumn.delimited_eq_standard provides plain,
      TableColumn.delimited_eq_standard (provides.of_steps steps) plain']
  · intro cut cut' whole whole'
    rw [TableColumn.columnar_eq_standard providesTyped whole,
      TableColumn.columnar_eq_standard (providesTyped.of_steps stepsTyped) whole']

/-- Five columns of texts, some of them with separators, quotes or a line feed. The second row has
an unknown code of a gender. -/
def TableColumn.textSample : List (TableColumn String 2) :=
  [⟨"Year", #v["1990", " 2000"]⟩, ⟨"District", #v["1;\"2\"", "3,4"]⟩, ⟨"Gender", #v["1", "7"]⟩,
    ⟨"Name", #v["Alex", "E\nva"]⟩, ⟨"Count", #v["3", "4"]⟩]

/-- The same columns in another order, the first with a mark in front of its header, and one more.
-/
def TableColumn.turnedTextSample : List (TableColumn String 2) :=
  [⟨"\ufeffc ", #v["3", "4"]⟩, ⟨"note", #v["", ";"]⟩, ⟨"Year", #v["1990", " 2000"]⟩,
    ⟨"District", #v["1;\"2\"", "3,4"]⟩, ⟨"Gender", #v["1", "7"]⟩, ⟨"Name", #v["Alex", "E\nva"]⟩]

/-- Five columns of cells, one of them null. -/
def TableColumn.cellSample : List (TableColumn Columnar.Cell 1) :=
  [⟨"Year", #v[⟨.int16, some 1990⟩]⟩, ⟨"District", #v[⟨.uint8, some 3⟩]⟩,
    ⟨"Gender", #v[⟨.utf8, some "1"⟩]⟩, ⟨"Name", #v[⟨.largeUtf8, none⟩]⟩, ⟨"c", #v[⟨.int8, some 4⟩]⟩]

open TableColumn (textSample turnedTextSample cellSample) in
theorem Load.eq_of_rearranged_turnedSample :
    delimited (.bytes (written .semicolon textSample)) =
        .error (.delimitedRow 2 (.value (.unknownGender 7))) ∧
      delimited (.bytes (written .comma turnedTextSample)) =
        .error (.delimitedRow 2 (.value (.unknownGender 7))) ∧
      columnar (.table ⟨headers cellSample, [rows cellSample]⟩) =
        .error (.columnarRow 0 (.cell .name .null)) ∧
      columnar (.table ⟨headers cellSample.reverse, [[], rows cellSample.reverse]⟩) =
        .error (.columnarRow 0 (.cell .name .null)) := by
  have complete : Complete textSample := by
    intro c
    cases c <;> rfl
  have completeCells : Complete cellSample := by
    intro c
    cases c <;> rfl
  have plain : ∀ h ∈ headers textSample, '\n' ∉ h.toList ∧ ';' ∉ h.toList := by decide
  have plain' : ∀ h ∈ headers turnedTextSample, '\n' ∉ h.toList ∧ ';' ∉ h.toList := by decide
  let others := textSample.take 4
  have moved : Rearranges textSample (⟨"Count", #v["3", "4"]⟩ :: others) :=
    .reorder (@List.perm_append_comm _ others [⟨"Count", #v["3", "4"]⟩])
  have respelled : Rearranges (⟨"Count", #v["3", "4"]⟩ :: others)
      (⟨"\ufeffc ", #v["3", "4"]⟩ :: others) :=
    .respell [] others .count (by decide) (by decide)
  have added : Rearranges (⟨"\ufeffc ", #v["3", "4"]⟩ :: others) turnedTextSample :=
    .add [⟨"\ufeffc ", #v["3", "4"]⟩] others (by intro c; cases c <;> decide)
  have turned : Rearranges cellSample cellSample.reverse := .reorder cellSample.reverse_perm.symm
  have first : delimited (.bytes (written .semicolon textSample)) =
      .error (.delimitedRow 2 (.value (.unknownGender 7))) := by decide +kernel
  have second : columnar (.table ⟨headers cellSample, [rows cellSample]⟩) =
      .error (.columnarRow 0 (.cell .name .null)) := rfl
  obtain ⟨files, tables⟩ := eq_of_rearranged complete
    (.head moved (.head respelled (.single added))) plain plain' completeCells (.single turned)
  refine ⟨first, ?_, second, ?_⟩
  · rw [← files .semicolon .comma, first]
  · rw [← tables [rows cellSample] _ rfl rfl, second]

end GivenNames
