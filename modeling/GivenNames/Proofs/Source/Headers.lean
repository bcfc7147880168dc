import GivenNames.Proofs.Json.Printed
import GivenNames.Proofs.Json.Refused
import GivenNames.Proofs.Source.GivenRows

/-!
Headers as keys.

A header names a column up to marks, blanks and the case of its letters; a key of a JSON source
stands for a column only if it is one of a few words. Every key is a header that names its column,
but not the other way round. Here rows are kept twice with the same words: in a delimited table
under them as headers, and in a JSON source under them as keys. Main statement: the table is always
loaded; the JSON source comes to the same registry exactly if it has no rows or all words are keys,
and otherwise the first column whose word is no key is missing in its first row (`load_naming`).
-/

namespace GivenNames

namespace Column

/-- Every key for a column is a header that names it. -/
theorem isNamedBy_of_mem_keys {c : Column} : ∀ key ∈ c.keys, c.isNamedBy key = true := by
  cases c <;> decide

/-- A header that names a column is a key only as a key for that column. -/
theorem isKey_eq_of_isNamedBy {c : Column} {header : String} (named : c.isNamedBy header = true) :
    isKey header = c.keys.contains header := by
  rw [Bool.eq_iff_iff, isKey, List.any_eq_true]
  constructor
  · rintro ⟨d, -, key⟩
    have same := eq_of_isNamedBy named (isNamedBy_of_mem_keys _ (List.contains_iff_mem.mp key))
    rwa [same]
  · intro key
    exact ⟨c, mem_all c, key⟩

end Column

/-! ### Words for the columns -/

/-- A word for each column that names it as a header. -/
structure Naming where
  word : Column → String
  names : ∀ c : Column, c.isNamedBy (word c) = true

/-- The field of a registration in a column of a delimited table. -/
def Registration.field (r : Registration) : Column → String
  | .year => Integer.text r.year.toInt
  | .district => r.district
  | .gender => Integer.text r.gender.code.toNat
  | .name => r.name
  | .count => Integer.text r.count.toNat

/-- Texts without blanks around them, and a count of 64 bits with a sign. -/
structure GivenRow.Proper (row : GivenRow) : Prop where
  district : Text.trim row.district.text = row.district.text
  name : Text.trim row.name = row.name
  count : Integer.InInt64 row.count.toNat

instance (row : GivenRow) : Decidable row.Proper :=
  decidable_of_iff (Text.trim row.district.text = row.district.text ∧
      Text.trim row.name = row.name ∧ Integer.InInt64 row.count.toNat)
    ⟨fun ⟨district, name, count⟩ => ⟨district, name, count⟩, fun ⟨district, name, count⟩ =>
      ⟨district, name, count⟩⟩

namespace Naming

open GivenRow (Stored nodup_slotNames slot)

/-- Rows as a delimited table with the words as headers, its columns in some order. -/
def toDelimited (naming : Naming) (separator : Delimited.Separator) (order : List Column)
    (rows : List GivenRow) : Text.Bytes :=
  Delimited.write separator
    (order.map naming.word :: rows.map fun row => order.map row.registration.field)

/-- A row as an object with one member for each column, in any order, that has the word as key. -/
inductive InObject (naming : Naming) (row : GivenRow) : Json → Prop
  | mk {ms : List (String × Json)} {district : Json} (given : row.district.InJson district)
      (members : ms.Perm (Column.all.map fun c => (naming.word c, row.values district c))) :
      InObject naming row (.object ms)

/-- Whether the word for a column is a key for it. -/
def knows (naming : Naming) (c : Column) : Bool :=
  c.keys.contains (naming.word c)

/-- The first column whose word is no key for it. -/
def unknown? (naming : Naming) : Option Column :=
  Column.all.find? fun c => !naming.knows c

variable (naming : Naming)

theorem unknown?_eq_none_iff : naming.unknown? = none ↔ ∀ c : Column, naming.word c ∈ c.keys := by
  rw [unknown?, List.find?_eq_none]
  constructor
  · intro known c
    simpa [knows] using known c c.mem_all
  · intro keys c _
    simpa [knows] using keys c

/-! ### In delimited tables -/

section Tables

variable {order : List Column} (whole : order.Perm Column.all)

/-- The layout of a table with its columns in some order. -/
def layout (order : List Column) : Layout where
  year := order.idxOf .year
  district := order.idxOf .district
  gender := order.idxOf .gender
  name := order.idxOf .name
  count := order.idxOf .count

theorem position_layout (order : List Column) (c : Column) :
    (layout order).position c = order.idxOf c := by
  cases c <;> rfl

theorem isNamedBy_word_iff {c d : Column} : c.isNamedBy (naming.word d) = true ↔ d = c := by
  constructor
  · intro named
    exact Column.eq_of_isNamedBy (naming.names d) named
  · rintro rfl
    exact naming.names d

include whole in
theorem ofHeaders_words : Layout.ofHeaders (order.map naming.word) = .ok (layout order) := by
  rw [Layout.ofHeaders_eq_ok_iff]
  intro c
  have here : c ∈ order := whole.mem_iff.mpr c.mem_all
  have found : (order.map naming.word).findIdx? c.isNamedBy = some (order.idxOf c) := by
    have named : c.isNamedBy ∘ naming.word = fun d => d == c := by
      funext d
      rw [Bool.eq_iff_iff, Function.comp_apply, isNamedBy_word_iff, beq_iff_eq]
    rw [List.findIdx?_map, named]
    exact List.findIdx?_eq_some_of_exists ⟨c, here, beq_self_eq_true c⟩
  rw [Layout.find, found, position_layout]

include whole in
theorem getElem?_fields (row : GivenRow) (c : Column) :
    (order.map row.registration.field)[(layout order).position c]? =
      some (row.registration.field c) := by
  have here : c ∈ order := whole.mem_iff.mpr c.mem_all
  rw [position_layout, List.getElem?_map, List.getElem?_idxOf here, Option.map_some]

include whole in
theorem inFields {row : GivenRow} (proper : row.Proper) :
    row.InFields (layout order) (order.map row.registration.field) where
  year :=
    ⟨_, getElem?_fields whole row .year, Integer.read_trim_text (Integer.inInt64_toInt32 row.year)⟩
  district := ⟨_, getElem?_fields whole row .district, proper.district⟩
  gender := by
    have word (g : Gender) : Integer.InInt64 g.code.toNat := by cases g <;> decide
    exact ⟨_, getElem?_fields whole row .gender, Integer.read_trim_text (word row.gender)⟩
  name := ⟨_, getElem?_fields whole row .name, proper.name⟩
  count := ⟨_, getElem?_fields whole row .count, Integer.read_trim_text proper.count⟩

include whole in
/-- The table is taken for what it is; where it is written with commas, this takes headers without
line feeds. -/
theorem guessed (separator : Delimited.Separator)
    (oneLine : separator = .comma → ∀ c, '\n' ∉ (naming.word c).toList)
    (records : List (List String)) :
    ∃ line, Text.decode? (Text.firstLine
        (Delimited.write separator (order.map naming.word :: records))) = some line ∧
      Delimited.Separator.ofFirstLine line = separator := by
  have wide := Layout.two_le_length (naming.ofHeaders_words whole)
  have free : ∀ other : Delimited.Separator, ∀ h ∈ order.map naming.word,
      other.char ∉ h.toList := by
    intro other h member
    obtain ⟨c, -, rfl⟩ := List.mem_map.mp member
    exact Column.char_notMem_of_isNamedBy (naming.names c) other
  cases separator with
  | semicolon => exact Delimited.ofFirstLine_write_of_commaless wide (free .comma) records
  | comma =>
      refine Delimited.ofFirstLine_write_comma wide ?_ (free .semicolon) records
      intro h member
      obtain ⟨c, -, rfl⟩ := List.mem_map.mp member
      exact oneLine rfl c

include whole in
/-- The table is a source of the rows. -/
theorem stored_toDelimited {path : String}
    (format : Format.ofExtension? (Path.extension path) = some .delimited)
    (separator : Delimited.Separator)
    (oneLine : separator = .comma → ∀ c, '\n' ∉ (naming.word c).toList) {rows : List GivenRow}
    (proper : ∀ row ∈ rows, row.Proper) :
    Stored rows path (.bytes (naming.toDelimited separator order rows)) := by
  refine .of_write format (naming.ofHeaders_words whole) (naming.guessed whole separator oneLine _)
    ?_ ?_
  · intro fields member
    obtain ⟨row, -, rfl⟩ := List.mem_map.mp member
    rw [List.length_map, List.length_map]
  · rw [List.forall₂_map_right_iff, List.forall₂_same]
    exact fun row member => inFields whole (proper row member)

end Tables

/-! ### In JSON -/

section Json

open Json (Form)
open Json.Form (Entry)

variable {naming} {row : GivenRow} {v : Json}

/-- Among words that are all keys, an object is a row as sources give it. -/
theorem InObject.inJson (gives : naming.InObject row v)
    (keys : ∀ c : Column, naming.word c ∈ c.keys) : row.InJson v := by
  cases gives with
  | @mk ms district given members =>
      refine .object given keys ?_
      have all : ms.filter (fun m => Column.isKey m.1) = ms := by
        refine List.filter_eq_self.mpr fun m member => ?_
        obtain ⟨c, -, rfl⟩ := List.mem_map.mp (members.mem_iff.mp member)
        rw [Column.isKey_eq_of_isNamedBy (naming.names c)]
        exact List.contains_iff_mem.mpr (keys c)
      rwa [all]

/-- A key for each column: its word where that is one, else its label. -/
def key (naming : Naming) (c : Column) : String :=
  if naming.knows c then naming.word c else c.label

theorem key_mem_keys (c : Column) : naming.key c ∈ c.keys := by
  rw [key]
  split
  · rename_i known
    exact List.contains_iff_mem.mp known
  · exact c.label_mem_keys

/-- The entries of a row for the columns whose words are keys. -/
def entries (naming : Naming) (row : GivenRow) (district : Json) :
    List (Entry (Column.all.map slot)) :=
  (Column.all.filter naming.knows).map (row.entry naming.key_mem_keys district)

theorem map_name_entries (district : Json) :
    (naming.entries row district).map Entry.name =
      (Column.all.filter naming.knows).map fun c => (slot c).name := by
  rw [entries, List.map_map]
  rfl

/-- The first slot without an entry is that of the first column whose word is no key. -/
theorem open?_entries (district : Json) :
    Entry.open? (naming.entries row district) = naming.unknown?.map slot := by
  have filled (c : Column) :
      ((Column.all.filter naming.knows).map fun c => (slot c).name).contains (slot c).name =
        naming.knows c := by
    rw [Bool.eq_iff_iff, List.contains_iff_mem, List.mem_map]
    constructor
    · rintro ⟨d, member, same⟩
      have equal := List.inj_on_of_nodup_map nodup_slotNames d.mem_all c.mem_all same
      rw [← equal]
      exact (List.mem_filter.mp member).2
    · intro known
      exact ⟨c, List.mem_filter.mpr ⟨c.mem_all, known⟩, rfl⟩
  have required (c : Column) : (slot c).required = true := by cases c <;> rfl
  rw [Entry.open?, List.find?_map, map_name_entries, unknown?]
  simp only [Function.comp_def, filled, required, Bool.true_and]

/-- The members that slots know are those of the columns whose words are keys. -/
theorem knownMembers_perm {ms : List (String × Json)} {district : Json}
    (members : ms.Perm (Column.all.map fun c => (naming.word c, row.values district c))) :
    (ms.filter (Form.knows (Column.all.map slot))).Perm
      ((naming.entries row district).map Entry.member) := by
  have word (c : Column) : Column.isKey (naming.word c) = naming.knows c :=
    Column.isKey_eq_of_isNamedBy (naming.names c)
  have kept : (Column.all.filter naming.knows).map
        (fun c => (naming.word c, row.values district c)) =
      (naming.entries row district).map Entry.member := by
    rw [entries, List.map_map]
    refine List.map_congr_left fun c member => ?_
    have known := (List.mem_filter.mp member).2
    simp only [Function.comp_apply, Entry.member, GivenRow.entry, key, if_pos known]
  rw [← kept, funext GivenRow.knows_slots]
  have chosen := members.filter fun m => Column.isKey m.1
  simpa only [List.filter_map, Function.comp_def, word] using chosen

/-- Where a word is no key, an object is refused: the slot of the first such column is missing. -/
theorem InObject.refuses (gives : naming.InObject row v) {c : Column}
    (unknown : naming.unknown? = some c) (n : Nat) :
    Load.registrationForm.Refuses (n + 1) v (.missingField c.label) := by
  have label : (slot c).name = c.label := by cases c <;> rfl
  cases gives with
  | @mk ms district given members =>
      rw [GivenRow.registrationForm_eq, ← label]
      refine Form.refuses_record_among (naming.entries row district) ?_ ?_
        (knownMembers_perm members) ?_
      · rw [map_name_entries]
        exact (List.filter_sublist.map _).nodup nodup_slotNames
      · intro e here
        obtain ⟨d, -, rfl⟩ := List.mem_map.mp here
        exact GivenRow.takes_entry given d
      · rw [open?_entries, unknown]
        rfl

variable {rows : List GivenRow} {path text : String} {items : List Json}
  (format : Format.ofExtension? (Path.extension path) = some .json)
  (spells : Json.Spells text (.array items)) (objects : List.Forall₂ naming.InObject rows items)

include format spells objects

/-- Where all words are keys, or no row has any, the objects are a source of the rows. -/
theorem stored_of_keys (keys : rows = [] ∨ ∀ c : Column, naming.word c ∈ c.keys) :
    Stored rows path (.bytes (Text.encode text)) := by
  refine .json format spells ?_
  rcases keys with rfl | keys
  · cases objects
    exact .nil
  · exact objects.imp fun _ _ gives => gives.inJson keys

/-- Where a word is no key and there is a row, the field of the first such column is missing. -/
theorem load_of_unknown {c : Column} (unknown : naming.unknown? = some c) (several : rows ≠ []) :
    ∃ place, load path (.bytes (Text.encode text)) =
      .error (.failed path (.parsingJson ⟨.missingField c.label, some place⟩)) := by
  obtain ⟨b, cs, b', blank, written, blank', rfl⟩ := spells
  cases objects with
  | nil => exact absurd rfl several
  | @cons row v rows items gives others =>
      have refuses : Load.registrationForm.list.Refuses Json.maxNesting (.array (v :: items))
          (.missingField c.label) :=
        Form.refuses_list .nil (gives.refuses unknown (Json.maxNesting - 2))
      obtain ⟨place, fails⟩ := Form.parse_of_refuses refuses blank written blank'
      refine ⟨place, ?_⟩
      simp only [load, format, Load.registrations, Load.json, Text.decode?_encode, Load.jsonText,
        fails, Except.mapError]

end Json

/-- A row as the object with its members in the order of the columns and its district as a text. -/
def object (row : GivenRow) : Json :=
  .object (Column.all.map fun c => (naming.word c, row.values (.string row.district.text) c))

theorem forall₂_object (rows : List GivenRow) :
    List.Forall₂ naming.InObject rows (rows.map naming.object) := by
  rw [List.forall₂_map_right_iff, List.forall₂_same]
  exact fun row _ => .mk (.text row.district) (.refl _)

theorem spells_objects (rows : List GivenRow) :
    Json.Spells (Json.array (rows.map naming.object)).text (.array (rows.map naming.object)) := by
  refine Json.spells_text (.array fun v member => ?_)
  obtain ⟨row, -, rfl⟩ := List.mem_map.mp member
  refine .object fun m here => ?_
  obtain ⟨c, -, rfl⟩ := List.mem_map.mp here
  cases c with
  | year => exact .int (isWord_int32 row.year)
  | district => exact .string _
  | gender => exact plain_gender _ row.gender
  | name => exact .string _
  | count => exact .int (isWord_natCast row.count.toNat_lt)

/-! ### Both -/

/-- Rows with trimmed texts and counts of 64 bits with a sign, kept under one word for each column.
The table with the words as headers is loaded as their registry, whatever the order of its columns.
The objects with the words as keys come to the same exactly if there are none or all words are keys;
where they do not, the field that is missing is the first column whose word is no key. -/
theorem load_naming {path path' : String}
    (delimited : Format.ofExtension? (Path.extension path) = some .delimited)
    (json : Format.ofExtension? (Path.extension path') = some .json) {order : List Column}
    (whole : order.Perm Column.all) (separator : Delimited.Separator)
    (oneLine : separator = .comma → ∀ c, '\n' ∉ (naming.word c).toList) {rows : List GivenRow}
    (proper : ∀ row ∈ rows, row.Proper) {text : String} {items : List Json}
    (spells : Json.Spells text (.array items)) (objects : List.Forall₂ naming.InObject rows items) :
    load path (.bytes (naming.toDelimited separator order rows)) =
        .ok (.ofList (rows.map GivenRow.registration)) ∧
      (load path' (.bytes (Text.encode text)) =
          load path (.bytes (naming.toDelimited separator order rows)) ↔
        rows = [] ∨ ∀ c : Column, naming.word c ∈ c.keys) ∧
      ∀ c, naming.unknown? = some c → rows ≠ [] →
        ∃ place, load path' (.bytes (Text.encode text)) =
          .error (.failed path' (.parsingJson ⟨.missingField c.label, some place⟩)) := by
  have table : load path (.bytes (naming.toDelimited separator order rows)) =
      .ok (.ofList (rows.map GivenRow.registration)) :=
    GivenRow.load_of_stored (naming.stored_toDelimited whole delimited separator oneLine proper)
  refine ⟨table, ?_, fun c => load_of_unknown json spells objects⟩
  rw [table]
  constructor
  · intro loaded
    by_contra! other
    obtain ⟨several, keyless⟩ := other
    obtain ⟨c, unknown⟩ : ∃ c, naming.unknown? = some c := by
      rw [← Option.isSome_iff_exists, Option.isSome_iff_ne_none, ne_eq, unknown?_eq_none_iff]
      exact not_forall.mpr keyless
    obtain ⟨place, fails⟩ := load_of_unknown json spells objects unknown several
    rw [fails] at loaded
    cases loaded
  · intro keys
    exact GivenRow.load_of_stored (stored_of_keys json spells objects keys)

/-- A key, a header with blanks around it that takes two lines, a published name, a header in
capitals and an initial. -/
def mixed : Naming where
  word c :=
    match c with
    | .year => "year"
    | .district => " district\n"
    | .gender => "C-GESCHLECHT-0"
    | .name => "NAME"
    | .count => "c"
  names := by
    intro c
    cases c <;> decide

/-- A district that is a number, a name that needs quotes, and the greatest count. -/
def mixedRows : List GivenRow := [
  ⟨1990, .code (-7), .male, "A;\"B\"", 3⟩,
  ⟨2000, .label "", .female, "", 9223372036854775807⟩]

theorem load_naming_mixed :
    let table := mixed.toDelimited .semicolon [.district, .count, .name, .year, .gender] mixedRows
    let text := (Json.array (mixedRows.map mixed.object)).text
    load "names.txt" (.bytes table) = .ok (.ofList (mixedRows.map GivenRow.registration)) ∧
      load "names.json" (.bytes (Text.encode text)) ≠ load "names.txt" (.bytes table) ∧
      ∃ place, load "names.json" (.bytes (Text.encode text)) =
        .error (.failed "names.json" (.parsingJson ⟨.missingField "District", some place⟩)) := by
  intro table text
  have whole : [Column.district, .count, .name, .year, .gender].Perm Column.all := by decide
  have delimited : Format.ofExtension? (Path.extension "names.txt") = some .delimited := by decide
  have json : Format.ofExtension? (Path.extension "names.json") = some .json := by decide
  have oneLine : Delimited.Separator.semicolon = .comma → ∀ c, '\n' ∉ (mixed.word c).toList := by
    intro comma
    cases comma
  have proper : ∀ row ∈ mixedRows, row.Proper := by decide
  obtain ⟨loaded, same, missing⟩ := mixed.load_naming delimited json whole .semicolon oneLine proper
    (mixed.spells_objects mixedRows) (mixed.forall₂_object mixedRows)
  refine ⟨loaded, fun equal => ?_, missing .district (by decide) (by decide)⟩
  rcases same.mp equal with none | keys
  · cases none
  · exact absurd (keys .district) (by decide)

/-- The words for the columns in capitals. -/
def capitals : Naming where
  word c :=
    match c with
    | .year => "YEAR"
    | .district => "DISTRICT"
    | .gender => "GENDER"
    | .name => "NAME"
    | .count => "COUNT"
  names := by
    intro c
    cases c <;> decide

def capitalRow : GivenRow :=
  ⟨2000, .label "A", .male, "Alex", 2⟩

def capitalText : String :=
  "[\x7b\"YEAR\":2000,\"DISTRICT\":\"A\",\"GENDER\":1,\"NAME\":\"Alex\",\"COUNT\":2\x7d]"

/-- Under words in capitals the table of one row is loaded, and its object misses the year. -/
theorem load_ne_capitals :
    let table := capitals.toDelimited .semicolon Column.all [capitalRow]
    Json.Spells capitalText (.array [capitals.object capitalRow]) ∧
      load "names.csv" (.bytes table) = .ok (.ofList [⟨2000, "A", .male, "Alex", 2⟩]) ∧
      load "names.json" (.bytes (Text.encode capitalText)) =
        .error (.failed "names.json" (.parsingJson ⟨.missingField "Year", some ⟨1, 64⟩⟩)) ∧
      load "names.json" (.bytes (Text.encode capitalText)) ≠ load "names.csv" (.bytes table) := by
  intro table
  have printed : (Json.array [capitals.object capitalRow]).text = capitalText := by decide +kernel
  have loaded : load "names.csv" (.bytes table) =
      .ok (.ofList [⟨2000, "A", .male, "Alex", 2⟩]) := by decide +kernel
  have fails : load "names.json" (.bytes (Text.encode capitalText)) =
      .error (.failed "names.json" (.parsingJson ⟨.missingField "Year", some ⟨1, 64⟩⟩)) := by
    decide +kernel
  refine ⟨?_, loaded, fails, ?_⟩
  · rw [← printed]
    exact capitals.spells_objects [capitalRow]
  · rw [loaded, fails]
    intro same
    cases same

end Naming

end GivenNames
