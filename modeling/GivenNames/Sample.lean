import GivenNames.Columnar
import GivenNames.Delimited.Writer
import GivenNames.Directory
import GivenNames.Source.Column

/-!
Sample data: made-up registrations in the layout of the published table.

Ten names over six districts and the years 1984 to 2022. A name starts with a yearly popularity that
grows or shrinks by a fixed rate; districts weigh it, and noise from a seeded stream spreads it.
Rows without registrations are left out. The table is written as a delimited file or as a columnar
one.
-/

namespace GivenNames.Sample

/-! ### Noise -/

/-- The state of the stream of noise. -/
structure Noise where
  state : UInt64
  deriving DecidableEq, Repr

namespace Noise

/-- The bits of a state, mixed. -/
def mix (state : UInt64) : UInt64 :=
  let z := (state ^^^ (state >>> 30)) * 0xbf58476d1ce4e5b9
  let z := (z ^^^ (z >>> 27)) * 0x94d049bb133111eb
  z ^^^ (z >>> 31)

/-- A number from 0 up to 1, and the stream after it. -/
def next (noise : Noise) : Float × Noise :=
  let state := noise.state + 0x9e3779b97f4a7c15
  ((mix state >>> 11).toFloat / 9007199254740992.0, ⟨state⟩)

/-- The ratio of a circle to its radius. -/
def fullTurn : Float := 6.283185307179586

/-- A count around a mean, spread like the square root of the mean, and the stream after it. -/
def count (noise : Noise) (mean : Float) : Int64 × Noise :=
  let (u, noise) := noise.next
  let (v, noise) := noise.next
  let u := max u 1e-15
  let z := ((-2.0) * u.log).sqrt * (fullTurn * v).cos
  ((mean + max mean.sqrt 0.5 * z).round.toInt64, noise)

end Noise

/-! ### Rows -/

/-- A row of the sample. -/
structure Row where
  year : Int32
  district : Int16
  gender : Int8
  name : String
  count : Int64
  deriving DecidableEq, Repr

/-- A made-up name: its popularity in the first year, and how that changes from year to year. -/
structure Profile where
  name : String
  gender : Int8
  base : Float
  trend : Float

/-- A made-up district and its weight. -/
structure Area where
  district : Int16
  weight : Float

/-- The first year of the sample. -/
def firstYear : Nat := 1984

/-- The last year of the sample. -/
def lastYear : Nat := 2022

def areas : List Area :=
  [⟨101, 0.6⟩, ⟨201, 1.0⟩, ⟨302, 0.8⟩, ⟨401, 1.4⟩, ⟨501, 0.9⟩, ⟨601, 1.7⟩]

def profiles : List Profile :=
  [⟨"Anna", 2, 40.0, -0.01⟩,
    ⟨"Maria", 2, 30.0, -0.03⟩,
    ⟨"Emma", 2, 5.0, 0.06⟩,
    ⟨"Lena", 2, 12.0, 0.01⟩,
    ⟨"Alex", 2, 0.6, 0.02⟩,
    ⟨"Alex", 1, 3.0, 0.0⟩,
    ⟨"Lukas", 1, 25.0, 0.0⟩,
    ⟨"Jonas", 1, 8.0, 0.04⟩,
    ⟨"Florian", 1, 20.0, -0.02⟩,
    ⟨"Quirin", 1, 0.4, 0.0⟩]

/-- The rows so far, the last one first, and the stream of noise. -/
structure Draft where
  rows : List Row
  noise : Noise

/-- Draws the count of a name in a year and a district, and keeps it if there is one. -/
def Draft.draw (draft : Draft) (year : Nat) (profile : Profile) (expected : Float) (area : Area) :
    Draft :=
  let (count, noise) := draft.noise.count (expected * area.weight)
  if count ≤ 0 then { draft with noise := noise }
  else
    ⟨⟨Int32.ofNat year, area.district, profile.gender, profile.name, count⟩ :: draft.rows, noise⟩

/-- Draws the counts of a name in a year, district after district. -/
def Draft.drawName (draft : Draft) (year : Nat) (profile : Profile) : Draft :=
  let age := (year - firstYear).toFloat
  let expected := profile.base * (1.0 + profile.trend).pow age
  areas.foldl (fun draft area => draft.draw year profile expected area) draft

/-- Draws the counts of a year, name after name. -/
def Draft.drawYear (draft : Draft) (year : Nat) : Draft :=
  profiles.foldl (fun draft profile => draft.drawName year profile) draft

/-- The rows that a stream of noise gives. -/
def rows (noise : Noise) : List Row :=
  let years := List.range' firstYear (lastYear + 1 - firstYear)
  (years.foldl Draft.drawYear ⟨[], noise⟩).rows.reverse

/-- The stream of noise that the sample is drawn from. -/
def seed : Noise :=
  ⟨42⟩

/-! ### Files -/

/-- The columns in the order in which they are published. -/
def header : List String :=
  Column.all.map Column.published

/-- The fields of a row. -/
def Row.fields (r : Row) : List String :=
  [Integer.text r.year.toInt, Integer.text r.district.toInt, Integer.text r.gender.toInt, r.name,
    Integer.text r.count.toInt]

/-- Rows as the bytes of a delimited file. -/
def toDelimited (rows : List Row) : Text.Bytes :=
  Delimited.write .semicolon (header :: rows.map Row.fields)

/-- Rows as a columnar table. -/
def toColumnar (rows : List Row) : Columnar.Table :=
  .ofColumns [
    ⟨Column.published .year, .int32, rows.map fun r => some r.year⟩,
    ⟨Column.published .district, .int16, rows.map fun r => some r.district⟩,
    ⟨Column.published .gender, .int8, rows.map fun r => some r.gender⟩,
    ⟨Column.published .name, .utf8, rows.map fun r => some r.name⟩,
    ⟨Column.published .count, .int64, rows.map fun r => some r.count⟩]

/-- A file that was written: the path it was written to, and what it holds. -/
structure File where
  path : String
  format : Format
  content : Content
  message : String

/-- The path that is written to without any other. -/
def defaultPath : String := "OGDEXT_VORNAMEN_1.parquet"

/-- Writes rows to a path; the ending of the path decides the format. -/
def write (path : String) (rows : List Row) : File :=
  let delimited := ['.', 'c', 's', 'v'].isSuffixOf path.toList
  { path := path
    format := if delimited then .delimited else .columnar
    content := if delimited then .bytes (toDelimited rows) else .table (toColumnar rows)
    message :=
      "Wrote " ++ Integer.natText rows.length ++ " registrations ("
        ++ Integer.natText profiles.length ++ " names, years " ++ Integer.natText firstYear ++ "-"
        ++ Integer.natText lastYear ++ ") to " ++ path ++ "\n" }

/-- Writes the sample to the path that is given first. -/
def run (args : List String) : File :=
  write (args.head?.getD defaultPath) (rows seed)

/-- What a run leaves: its exit code, its output, and the file with its name in the directory. -/
structure Outcome where
  exit : Nat
  output : String
  file : Option (String × File)

/-- Runs the writing of the sample in a directory; it fails where no file can be written. -/
def runIn (d : Directory) (args : List String) : Outcome :=
  let file := run args
  match d.target? file.path with
  | some name => ⟨0, file.message, some (name, file)⟩
  | none => ⟨101, "", none⟩

end GivenNames.Sample
