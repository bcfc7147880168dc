import GivenNames.Event
import GivenNames.Path
import GivenNames.Source.Fault

/-!
Loading a registry from a source.

The extension of the path decides the format. A source is read from front to back, and its first
fault ends the loading: no registry is built from a part of a source. A registry that was loaded is
reported with its first rows.
-/

namespace GivenNames

/-- What stands at a path; where that is nothing, also why. -/
inductive Content where
  | nothing (why : FileFault)
  | directory
  | bytes (bytes : Text.Bytes)
  | table (table : Columnar.Table)

namespace Load

/-! ### Delimited tables -/

/-- The registrations of records, the first of which has the given number. -/
def records (layout : Layout) (number : Nat) :
    List (Except Delimited.Fault (List String)) → Except SourceFault (List Registration)
  | [] => .ok []
  | .error fault :: _ => .error (.record number fault)
  | .ok fields :: rest =>
    match (RowCells.ofFields layout fields).registration with
    | .error fault => .error (.delimitedRow number fault)
    | .ok r => (records layout (number + 1) rest).map (r :: ·)

/-- The registrations of a delimited table. -/
def delimitedTable (table : Delimited.Table) : Except SourceFault (List Registration) :=
  match table.header with
  | .error fault => .error (.header fault)
  | .ok header =>
    match Layout.ofHeaders header with
    | .error column => .error (.missingColumn .delimited column)
    | .ok layout => records layout 1 table.records

/-- The registrations of the bytes of a delimited table. -/
def delimitedBytes (bytes : Text.Bytes) : Except SourceFault (List Registration) :=
  match Text.decode? (Text.firstLine bytes) with
  | none => .error (.headerLine .notText)
  | some line => delimitedTable (Delimited.read (.ofFirstLine line) bytes)

/-- The registrations of a delimited source. -/
def delimited : Content → Except SourceFault (List Registration)
  | .nothing why => .error (.openingDelimited why)
  | .directory => .error (.headerLine .isDirectory)
  | .bytes bytes => delimitedBytes bytes
  | .table _ => .error (.headerLine .notText)

/-! ### Columnar tables -/

/-- The registrations of the rows of a batch, the first of which has the given number. -/
def batchRows (layout : Layout) (number : Nat) :
    List (List Columnar.Cell) → Except SourceFault (List Registration)
  | [] => .ok []
  | cells :: rest =>
    match (RowCells.ofCells layout cells).registration with
    | .error fault => .error (.columnarRow number fault)
    | .ok r => (batchRows layout (number + 1) rest).map (r :: ·)

/-- The registrations of batches, the first row of which has the given number. -/
def batches (layout : Layout) (number : Nat) :
    List (List (List Columnar.Cell)) → Except SourceFault (List Registration)
  | [] => .ok []
  | batch :: rest =>
    match batchRows layout number batch with
    | .error fault => .error fault
    | .ok rows => (batches layout (number + batch.length) rest).map (rows ++ ·)

/-- The registrations of a columnar table. -/
def columnarTable (table : Columnar.Table) : Except SourceFault (List Registration) :=
  match Layout.ofHeaders table.header with
  | .error column => .error (.missingColumn .columnar column)
  | .ok layout => batches layout 0 table.batches

/-- The registrations of a columnar source. -/
def columnar : Content → Except SourceFault (List Registration)
  | .nothing why => .error (.openingColumnar why)
  | .directory => .error (.description .isDirectory)
  | .bytes bytes => .error (.description (.footer (.ofBytes bytes)))
  | .table table => columnarTable table

/-! ### JSON -/

/-- A registration as an object of a JSON source. A member goes by the label of its column, also in
small letters, or by the name it was published under; the count also goes by its initial. -/
def registrationForm : Json.Form Registration :=
  Json.Form.record "JsonRecord" [
    .of "Year" ["C-JAHR-0", "year"] true Json.Form.int32 fun year r => { r with year := year },
    .of "District" ["C-WOHNBEZIRK-0", "district"] true (District.form.map District.text)
      fun district r => { r with district := district },
    .of "Gender" ["C-GESCHLECHT-0", "gender"] true Gender.form
      fun gender r => { r with gender := gender },
    .of "Name" ["F-VORNAME_NORMALISIERT", "name"] true Json.Form.string
      fun name r => { r with name := name },
    .of "Count" ["F-ANZAHL_LGEB", "count", "c"] true Json.Form.uint64
      fun count r => { r with count := count }]
    ⟨0, "", .male, "", 0⟩

/-- The registrations of a JSON text. -/
def jsonText (text : String) : Except SourceFault (List Registration) :=
  (registrationForm.list.parse text).mapError .parsingJson

/-- The registrations of a JSON source. -/
def json : Content → Except SourceFault (List Registration)
  | .nothing why => .error (.readingJson why)
  | .directory => .error (.readingJson .isDirectory)
  | .bytes bytes =>
    match Text.decode? bytes with
    | none => .error (.readingJson .notText)
    | some text => jsonText text
  | .table _ => .error (.readingJson .notText)

/-! ### All formats -/

/-- The registrations of a source. -/
def registrations : Format → Content → Except SourceFault (List Registration)
  | .delimited => delimited
  | .columnar => columnar
  | .json => json

/-- The number of rows that are reported of a loaded registry. -/
def previewSize : Nat := 5

/-- What is reported of a loaded registry. -/
def events (path : String) (registry : Registry) : List Event :=
  .loaded registry.size path registry.districts.length registry.yearSpan
    :: (registry.head previewSize).map .preview

end Load

/-- Loads the registry that stands at a path. -/
def load (path : String) (content : Content) : Except LoadError Registry :=
  match Format.ofExtension? (Path.extension path) with
  | none => .error (.unsupported (Path.extension path))
  | some format =>
    match Load.registrations format content with
    | .error fault => .error (.failed path fault)
    | .ok registrations => .ok (Registry.ofList registrations)

/-- Loads the registry that stands at a path; also what is reported of it. -/
def loadWithEvents (path : String) (content : Content) : Except LoadError Registry × List Event :=
  match load path content with
  | .error e => (.error e, [])
  | .ok registry => (.ok registry, Load.events path registry)

end GivenNames
