import GivenNames.Proofs.Json.Records
import GivenNames.Proofs.Source.Json
import GivenNames.Proofs.Source.TypedTables

/-!
Rows as sources give them.

A source gives a district by its number or by its text, each format in its own ways: a JSON source
as a numeral or a string, a columnar table as a cell of any integer type or of a text type, a
delimited table as a text. What the rows of a source are is laid down for each format
(`GivenRow.Stored`), with members in any order and any others between them in JSON, any layout in
tables, and any batches. Main statement: a source of rows is loaded as the registry of their
registrations, the districts being known by their texts (`GivenRow.load_of_stored`).
-/

namespace GivenNames

/-! ### Districts -/

namespace District

/-- The values of a JSON source that give a district: its number, and its text. -/
inductive InJson : District → Json → Prop
  | number (n : Int64) : InJson (.code n) (.int n.toInt)
  | text (d : District) : InJson d (.string d.text)

/-- The cells of a columnar table that give a district: those that hold its number, whatever their
integer type, and those that hold its text. -/
inductive InCell (cell : Columnar.Cell) : District → Prop
  | number {n : Int64} (holds : cell.HoldsNumber n.toInt) : InCell cell (.code n)
  | text {d : District} (holds : cell.HoldsText d.text) : InCell cell d

theorem InJson.takes {d : District} {v : Json} (given : d.InJson v) (n : Nat) :
    (District.form.map District.text).Takes n v d.text := by
  cases given with
  | number k =>
      have code : District.form.Takes n (.int k.toInt) (.code k) := by
        refine Json.Form.takes_value.checked ?_
        simp only [Json.sorted, if_pos (Integer.inInt64_toInt64 k), Int64.ofInt_toInt]
      exact code.map District.text
  | text d => exact Load.takes_district d.text

theorem InCell.saysText {d : District} {cell : Columnar.Cell} (given : d.InCell cell) :
    cell.SaysText d.text := by
  cases given with
  | @number n holds => exact .number holds (Integer.inInt64_toInt64 n)
  | text holds => exact .text holds

end District

/-! ### Rows -/

/-- A registration whose district is given by its number or by its text. -/
structure GivenRow where
  year : Int32
  district : District
  gender : Gender
  name : String
  count : UInt64

/-- The keys of a JSON source that stand for a column. -/
def Column.keys : Column → List String
  | .year => ["Year", "C-JAHR-0", "year"]
  | .district => ["District", "C-WOHNBEZIRK-0", "district"]
  | .gender => ["Gender", "C-GESCHLECHT-0", "gender"]
  | .name => ["Name", "F-VORNAME_NORMALISIERT", "name"]
  | .count => ["Count", "F-ANZAHL_LGEB", "count", "c"]

theorem Column.label_mem_keys (c : Column) : c.label ∈ c.keys := by
  cases c <;> decide

/-- Whether a key stands for any column. -/
def Column.isKey (key : String) : Bool :=
  all.any fun c => c.keys.contains key

namespace GivenRow

/-- The registration of a row: its district is known by its text. -/
def registration (row : GivenRow) : Registration :=
  ⟨row.year, row.district.text, row.gender, row.name, row.count⟩

/-- The values of a row in a JSON source, its district being given by this value. -/
def values (row : GivenRow) (district : Json) : Column → Json
  | .year => .int row.year.toInt
  | .district => district
  | .gender => row.gender.toJson
  | .name => .string row.name
  | .count => .int row.count.toNat

/-- A row in a JSON source: as an object that has one member for each column, in any order and with
members of other keys between them, or as an array of the values in the order of the columns. -/
inductive InJson (row : GivenRow) : Json → Prop
  | object {ms : List (String × Json)} {key : Column → String} {district : Json}
      (given : row.district.InJson district) (keys : ∀ c, key c ∈ c.keys)
      (members : (ms.filter fun m => Column.isKey m.1).Perm
        (Column.all.map fun c => (key c, row.values district c))) : InJson row (.object ms)
  | array {district : Json} (given : row.district.InJson district) :
      InJson row (.array (Column.all.map (row.values district)))

/-- The integer that the fields of a record spell in a column, blanks around it aside. -/
def SpellsInteger (layout : Layout) (fields : List String) (c : Column) (n : Int) : Prop :=
  ∃ s ∈ fields[layout.position c]?, Integer.read (Text.trim s).toList = .ok n

/-- The text that the fields of a record hold in a column, blanks around it aside. -/
def SpellsText (layout : Layout) (fields : List String) (c : Column) (t : String) : Prop :=
  ∃ s ∈ fields[layout.position c]?, Text.trim s = t

/-- A row in the fields of a delimited table. -/
structure InFields (layout : Layout) (row : GivenRow) (fields : List String) : Prop where
  year : SpellsInteger layout fields .year row.year.toInt
  district : SpellsText layout fields .district row.district.text
  gender : SpellsInteger layout fields .gender row.gender.code.toNat
  name : SpellsText layout fields .name row.name
  count : SpellsInteger layout fields .count row.count.toNat

/-- A row in the cells of a columnar table. -/
structure InCells (layout : Layout) (row : GivenRow) (cells : List Columnar.Cell) : Prop where
  year : (TypedRow.side layout cells).SaysInteger .year row.year.toInt
  district : ∃ cell ∈ TypedRow.side layout cells .district, row.district.InCell cell
  gender : (TypedRow.side layout cells).SaysInteger .gender row.gender.code.toNat
  name : (TypedRow.side layout cells).SaysText .name row.name
  count : (TypedRow.side layout cells).SaysInteger .count row.count.toNat

/-- What stands at a path is a source of these rows, in its format. -/
inductive Stored (rows : List GivenRow) (path : String) : Content → Prop
  | json {text : String} {items : List Json}
      (format : Format.ofExtension? (Path.extension path) = some .json)
      (spells : Json.Spells text (.array items)) (each : List.Forall₂ InJson rows items) :
      Stored rows path (.bytes (Text.encode text))
  | delimited {bytes : Text.Bytes} {line : String} {header : List String} {layout : Layout}
      {records : List (List String)}
      (format : Format.ofExtension? (Path.extension path) = some .delimited)
      (first : Text.decode? (Text.firstLine bytes) = some line)
      (read : Delimited.read (.ofFirstLine line) bytes = ⟨.ok header, records.map .ok⟩)
      (located : Layout.ofHeaders header = .ok layout)
      (each : List.Forall₂ (InFields layout) rows records) : Stored rows path (.bytes bytes)
  | columnar {table : Columnar.Table} {layout : Layout}
      (format : Format.ofExtension? (Path.extension path) = some .columnar)
      (located : Layout.ofHeaders table.header = .ok layout)
      (each : List.Forall₂ (InCells layout) rows table.batches.flatten) :
      Stored rows path (.table table)

variable {row : GivenRow}

/-! ### Rows in tables -/

section Tables

variable {layout : Layout}

theorem integer_ofFields {fields : List String} {c : Column} {n : Int}
    (spells : SpellsInteger layout fields c n) :
    (RowCells.ofFields layout fields).integer c = .ok n := by
  obtain ⟨s, here, value⟩ := spells
  have found : fields[layout.position c]? = some s := here
  simp only [RowCells.ofFields, RowCells.fieldInteger, RowCells.fieldText, found, value,
    mapError_ok]

theorem text_ofFields {fields : List String} {c : Column} {t : String}
    (spells : SpellsText layout fields c t) : (RowCells.ofFields layout fields).text c = .ok t := by
  obtain ⟨s, here, rfl⟩ := spells
  have found : fields[layout.position c]? = some s := here
  simp only [RowCells.ofFields, RowCells.fieldText, found]

theorem InFields.registration {fields : List String} (given : row.InFields layout fields) :
    (RowCells.ofFields layout fields).registration = .ok row.registration := by
  apply RowCells.registration_of_reading
  simp only [RowCells.reading, Reading.of, GivenRow.registration, integer_ofFields given.year,
    text_ofFields given.district, integer_ofFields given.gender, text_ofFields given.name,
    integer_ofFields given.count, Except.toOption]

theorem InCells.registration {cells : List Columnar.Cell} (given : row.InCells layout cells) :
    (RowCells.ofCells layout cells).registration = .ok row.registration := by
  obtain ⟨cell, here, district⟩ := given.district
  exact TypedRow.registration_of_holds
    ⟨given.year, ⟨cell, here, district.saysText⟩, given.gender, given.name, given.count⟩

/-- The rows of a table are taken as their registrations, in order. -/
theorem scan_of_each {ρ : Type} {given : GivenRow → ρ → Prop} {rows : List GivenRow} {rs : List ρ}
    (each : List.Forall₂ given rows rs) {cells : ρ → RowCells}
    (takes : ∀ row r, given row r → (cells r).registration = .ok row.registration)
    {fault : Nat → RowFault → SourceFault} {number : Nat} :
    Load.scan cells fault number rs = .ok (rows.map GivenRow.registration) := by
  rw [Load.scan_eq_ok_iff, List.forall₂_map_right_iff]
  exact each.flip.imp fun r row => takes row r

end Tables

/-! ### Rows in JSON -/

section Json

open Json (Form Slot)
open Json.Form (Entry)

/-- The slot that a column has in the form of a registration. -/
def slot : Column → Slot Registration
  | .year => .of "Year" ["C-JAHR-0", "year"] true Form.int32 fun year r => { r with year := year }
  | .district =>
      .of "District" ["C-WOHNBEZIRK-0", "district"] true (District.form.map District.text)
        fun district r => { r with district := district }
  | .gender => .of "Gender" ["C-GESCHLECHT-0", "gender"] true Gender.form
      fun gender r => { r with gender := gender }
  | .name => .of "Name" ["F-VORNAME_NORMALISIERT", "name"] true Form.string
      fun name r => { r with name := name }
  | .count => .of "Count" ["F-ANZAHL_LGEB", "count", "c"] true Form.uint64
      fun count r => { r with count := count }

/-- What a row puts into a registration for a column. -/
def put (row : GivenRow) : Column → Registration → Registration
  | .year, r => { r with year := row.year }
  | .district, r => { r with district := row.district.text }
  | .gender, r => { r with gender := row.gender }
  | .name, r => { r with name := row.name }
  | .count, r => { r with count := row.count }

theorem registrationForm_eq :
    Load.registrationForm =
      Form.record "JsonRecord" (Column.all.map slot) ⟨0, "", .male, "", 0⟩ := rfl

theorem isFor_slot (c : Column) (key : String) : (slot c).isFor key = c.keys.contains key := by
  have any (s : Slot Registration) : s.isFor key = (s.name :: s.aliases).contains key := by
    rw [Slot.isFor, List.contains_cons, BEq.comm]
  rw [any]
  cases c <;> rfl

/-- A key stands for one column only. -/
theorem find?_slot (c : Column) :
    ∀ key ∈ c.keys, (Column.all.map slot).find? (·.isFor key) = some (slot c) := by
  cases c <;> simp only [Column.keys, List.forall_mem_cons]
  · exact ⟨rfl, rfl, rfl, by simp⟩
  · exact ⟨rfl, rfl, rfl, by simp⟩
  · exact ⟨rfl, rfl, rfl, by simp⟩
  · exact ⟨rfl, rfl, rfl, by simp⟩
  · exact ⟨rfl, rfl, rfl, rfl, by simp⟩

theorem knows_slots (m : String × Json) :
    Form.knows (Column.all.map slot) m = Column.isKey m.1 := by
  simp only [Form.knows, List.isSome_find?, List.any_map, Column.isKey, Function.comp_def,
    isFor_slot]

theorem nodup_slotNames : (Column.all.map fun c => (slot c).name).Nodup := by
  decide

variable {key : Column → String} (keys : ∀ c, key c ∈ c.keys) {district : Json} {n : Nat}

/-- The entry of a row for a column. -/
def entry (row : GivenRow) (district : Json) (c : Column) : Entry (Column.all.map slot) :=
  ⟨key c, row.values district c, slot c, row.put c, find?_slot c (key c) (keys c)⟩

theorem takes_entry (given : row.district.InJson district) (c : Column) :
    (slot c).form.Takes n (row.values district c) (row.put c) := by
  cases c with
  | year =>
      exact (Load.takes_int32 row.year).map fun year (r : Registration) => { r with year := year }
  | district =>
      exact (given.takes n).map fun district (r : Registration) => { r with district := district }
  | gender =>
      exact (Load.takes_gender row.gender).map
        fun gender (r : Registration) => { r with gender := gender }
  | name =>
      exact (@Form.takes_string _ row.name).map
        fun name (r : Registration) => { r with name := name }
  | count =>
      exact (Load.takes_uint64 row.count).map
        fun count (r : Registration) => { r with count := count }

theorem complete_entries : Entry.Complete (Column.all.map (row.entry keys district)) where
  distinct := by
    rw [List.map_map]
    exact nodup_slotNames
  required := by
    intro s member _
    obtain ⟨c, here, rfl⟩ := List.mem_map.mp member
    exact List.mem_map.mpr ⟨_, List.mem_map_of_mem here, rfl⟩

theorem apart_entries : Entry.Apart (Column.all.map (row.entry keys district)) := by
  intro e here e' here' r
  obtain ⟨c, -, rfl⟩ := List.mem_map.mp here
  obtain ⟨c', -, rfl⟩ := List.mem_map.mp here'
  cases c <;> cases c' <;> rfl

/-- A row in a JSON source is taken as its registration. -/
theorem InJson.takes {v : Json} (given : row.InJson v) :
    Load.registrationForm.Takes (n + 1) v row.registration := by
  rw [registrationForm_eq]
  cases given with
  | @object ms key district given keys members =>
      have taken : ∀ e ∈ Column.all.map (row.entry keys district),
          e.slot.form.Takes n e.value e.put := by
        intro e here
        obtain ⟨c, -, rfl⟩ := List.mem_map.mp here
        exact takes_entry given c
      refine Form.takes_record_among _ (complete_entries keys) (apart_entries keys) taken ?_ rfl
      have known : ms.filter (Form.knows (Column.all.map slot)) =
          ms.filter fun m => Column.isKey m.1 := by rw [funext knows_slots]
      rw [known]
      exact members
  | @array district given =>
      have taken : ∀ e ∈ Column.all.map (row.entry Column.label_mem_keys district),
          e.slot.form.Takes n e.value e.put := by
        intro e here
        obtain ⟨c, -, rfl⟩ := List.mem_map.mp here
        exact takes_entry given c
      exact Form.takes_record_of_items _ rfl taken rfl

end Json

/-! ### Sources -/

/-- A source of rows is loaded as the registry of their registrations, in order. -/
theorem load_of_stored {rows : List GivenRow} {path : String} {content : Content}
    (stored : Stored rows path content) :
    load path content = .ok (.ofList (rows.map GivenRow.registration)) := by
  cases stored with
  | @json _ items format spells each =>
      obtain ⟨b, cs, b', blank, written, blank', rfl⟩ := spells
      have takes : List.Forall₂ (Load.registrationForm.Takes (Json.maxNesting - 1)) items
          (rows.map GivenRow.registration) := by
        rw [List.forall₂_map_right_iff]
        exact each.flip.imp fun _ _ given => given.takes
      simp only [load, format, Load.registrations, Load.json, Text.decode?_encode, Load.jsonText,
        Json.Form.parse_of_takes (Json.Form.takes_list takes) blank written blank', mapError_ok]
  | delimited format first read located each =>
      simp only [load, format, Load.registrations, Load.delimited, Load.delimitedBytes, first, read,
        Load.delimitedTable, located, Load.records_eq_scan,
        scan_of_each each fun _ _ => InFields.registration]
  | columnar format located each =>
      simp only [load, format, Load.registrations, Load.columnar_table located,
        scan_of_each each fun _ _ => InCells.registration]

/-- A delimited file of rows that was written, and is taken for what it is, is a source of them. -/
theorem Stored.of_write {rows : List GivenRow} {path : String} {separator : Delimited.Separator}
    {header : List String} {layout : Layout} {records : List (List String)}
    (format : Format.ofExtension? (Path.extension path) = some .delimited)
    (located : Layout.ofHeaders header = .ok layout)
    (guessed : ∃ line,
      Text.decode? (Text.firstLine (Delimited.write separator (header :: records))) = some line ∧
        Delimited.Separator.ofFirstLine line = separator)
    (even : ∀ fields ∈ records, fields.length = header.length)
    (each : List.Forall₂ (InFields layout) rows records) :
    Stored rows path (.bytes (Delimited.write separator (header :: records))) := by
  obtain ⟨line, first, rfl⟩ := guessed
  have located' := (Layout.ofHeaders_unmarked (.ofFirstLine line) header).trans located
  have wide := Layout.two_le_length located
  exact .delimited format first (Delimited.read_write wide even) located' each

end GivenRow

end GivenNames
