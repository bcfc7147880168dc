import GivenNames.Proofs.Source.Tables
import GivenNames.Sample

/-!
Sample data loaded back.

The program that writes sample data and the loader share the headers of the columns and nothing
else. Main statement: rows with a known gender, no negative count and no blanks around the name are
loaded as their registrations, in order, from the delimited file and from the columnar one, whatever
batches it comes in (`load_sample`). Both ways meet in what can be read of a row (`reading_fields`,
`reading_cells`), which for such rows is their registration (`map_reading`).
-/

namespace GivenNames.Sample

open RowCells (ofCells ofFields)

/-! ### Rows that are loaded back -/

/-- A known gender, no negative count, and no blanks around the name. -/
structure Row.Proper (r : Row) : Prop where
  gender : r.gender = 1 ∨ r.gender = 2
  count : 0 ≤ r.count
  name : Text.trim r.name = r.name

instance (r : Row) : Decidable r.Proper :=
  decidable_of_iff ((r.gender = 1 ∨ r.gender = 2) ∧ 0 ≤ r.count ∧ Text.trim r.name = r.name)
    ⟨fun ⟨gender, count, name⟩ => ⟨gender, count, name⟩, fun ⟨gender, count, name⟩ =>
      ⟨gender, count, name⟩⟩

/-- The registration that a row stands for. -/
def Row.registration (r : Row) : Registration where
  year := r.year
  district := Integer.text r.district.toInt
  gender := if r.gender = 1 then .male else .female
  name := r.name
  count := UInt64.ofNat r.count.toInt.toNat

/-- What can be read of a row, before it is known to be proper. -/
def Row.reading (r : Row) : Reading :=
  ⟨some r.year.toInt, some (Integer.text r.district.toInt), some r.gender.toInt, some r.name,
    some r.count.toInt⟩

theorem Row.Proper.reading {r : Row} (proper : r.Proper) : r.reading = .of r.registration := by
  have gender : r.gender.toInt = ((r.registration.gender.code.toNat : Nat) : Int) := by
    rcases proper.gender with known | known <;> simp only [Row.registration, known] <;> rfl
  have natural : 0 ≤ r.count.toInt := Int64.le_iff_toInt_le.mp proper.count
  have count := Integer.toNat_ofNat_toNat natural (Integer.inInt64_toInt64 r.count)
  rw [Row.reading, Reading.of, gender]
  simp only [Row.registration, count]

/-! ### Both formats -/

/-- The layout of the published table. -/
def layout : Layout :=
  ⟨0, 1, 2, 3, 4⟩

theorem ofHeaders_header : Layout.ofHeaders header = .ok layout := rfl

theorem reading_fields {r : Row} (name : Text.trim r.name = r.name) :
    (ofFields layout r.fields).reading = r.reading := by
  have year : RowCells.fieldInteger r.fields 0 = .ok r.year.toInt :=
    RowCells.fieldInteger_text rfl (Integer.inInt64_toInt32 r.year)
  have gender : RowCells.fieldInteger r.fields 2 = .ok r.gender.toInt :=
    RowCells.fieldInteger_text rfl (Integer.inInt64_toInt8 r.gender)
  have count : RowCells.fieldInteger r.fields 4 = .ok r.count.toInt :=
    RowCells.fieldInteger_text rfl (Integer.inInt64_toInt64 r.count)
  have district : RowCells.fieldText r.fields 1 = .ok (Integer.text r.district.toInt) := by
    simp [RowCells.fieldText, Row.fields, Integer.trim_text]
  have name : RowCells.fieldText r.fields 3 = .ok r.name := by
    simp [RowCells.fieldText, Row.fields, name]
  simp only [RowCells.reading, ofFields, layout, Layout.position, year, gender, count, district,
    name]
  rfl

/-- The cells of a row. -/
def Row.cells (r : Row) : List Columnar.Cell :=
  [⟨.int32, some r.year⟩, ⟨.int16, some r.district⟩, ⟨.int8, some r.gender⟩,
    ⟨.utf8, some r.name⟩, ⟨.int64, some r.count⟩]

theorem rows_toColumnar (rows : List Row) : (toColumnar rows).batches = [rows.map Row.cells] := by
  simp [toColumnar, Columnar.Table.ofColumns, Columnar.rowsOf, Columnar.Column.typedCells,
    List.zipWith_map, List.zipWith_self, Row.cells]

theorem reading_cells (r : Row) : (ofCells layout r.cells).reading = r.reading := by
  have year : (ofCells layout r.cells).integer .year = .ok r.year.toInt :=
    RowCells.contentInteger_of_word (Integer.inInt64_toInt32 r.year)
  have gender : (ofCells layout r.cells).integer .gender = .ok r.gender.toInt :=
    RowCells.contentInteger_of_word (Integer.inInt64_toInt8 r.gender)
  have count : (ofCells layout r.cells).integer .count = .ok r.count.toInt :=
    RowCells.contentInteger_of_word (Integer.inInt64_toInt64 r.count)
  have district : (ofCells layout r.cells).text .district =
      .ok (Integer.text r.district.toInt) := by
    have word := RowCells.contentInteger_of_word (Integer.inInt64_toInt16 r.district)
    exact map_eq_ok_iff.mpr ⟨_, word, rfl⟩
  have name : (ofCells layout r.cells).text .name = .ok r.name := rfl
  simp only [RowCells.reading, year, gender, count, district, name]
  rfl

/-! ### Loading -/

section Proper

variable {rows : List Row} (proper : ∀ r ∈ rows, r.Proper)

include proper

theorem map_reading : rows.map Row.reading = (rows.map Row.registration).map .of := by
  rw [List.map_map]
  exact List.map_congr_left fun r member => (proper r member).reading

theorem delimited_toDelimited :
    Load.delimited (.bytes (toDelimited rows)) = .ok (rows.map Row.registration) := by
  have even : ∀ fields ∈ rows.map Row.fields, fields.length = header.length := by
    intro fields member
    obtain ⟨r, _, rfl⟩ := List.mem_map.mp member
    rfl
  have read : ((rows.map Row.fields).map fun fields => (ofFields layout fields).reading) =
      rows.map Row.reading := by
    rw [List.map_map]
    exact List.map_congr_left fun r member => reading_fields (proper r member).name
  refine (Load.delimited_write ofHeaders_header (by decide) even).trans ?_
  exact Load.scan_of_readings (read.trans (map_reading proper)) 1

/-- The rows are scanned one after the other, so the cut does not matter. -/
theorem columnar_toColumnar {cut : List (List (List Columnar.Cell))}
    (whole : cut.flatten = (toColumnar rows).batches.flatten) :
    Load.columnar (.table { toColumnar rows with batches := cut }) =
      .ok (rows.map Row.registration) := by
  have read : ((rows.map Row.cells).map fun cells => (ofCells layout cells).reading) =
      rows.map Row.reading := by
    rw [List.map_map]
    exact List.map_congr_left fun r _ => reading_cells r
  rw [rows_toColumnar, List.flatten_singleton] at whole
  refine (Load.columnar_table ofHeaders_header cut).trans ?_
  rw [whole]
  exact Load.scan_of_readings (read.trans (map_reading proper)) 0

end Proper

/-- Sample data whose rows are proper is loaded as their registrations, in order: from the delimited
file, and from the columnar one, wherever its rows are cut into batches. -/
theorem load_sample {path path' : String}
    (delimited : Format.ofExtension? (Path.extension path) = some .delimited)
    (columnar : Format.ofExtension? (Path.extension path') = some .columnar) {rows : List Row}
    (proper : ∀ r ∈ rows, r.Proper) :
    ∃ registry : Registry, registry.registrations = rows.map Row.registration ∧
      registry = .ofList (rows.map Row.registration) ∧
      load path (.bytes (toDelimited rows)) = .ok registry ∧
      load path' (.table (toColumnar rows)) = .ok registry ∧
      ∀ cut, cut.flatten = (toColumnar rows).batches.flatten →
        load path' (.table { toColumnar rows with batches := cut }) = .ok registry := by
  have cuts : ∀ cut, cut.flatten = (toColumnar rows).batches.flatten →
      load path' (.table { toColumnar rows with batches := cut }) =
        .ok (.ofList (rows.map Row.registration)) := by
    intro cut whole
    simp only [load, columnar, Load.registrations, columnar_toColumnar proper whole]
  refine ⟨_, rfl, rfl, ?_, cuts _ rfl, cuts⟩
  simp only [load, delimited, Load.registrations, delimited_toDelimited proper]

/-- The ends of the words, names that need quotes, and an empty one. -/
def sharpSample : List Row := [
  ⟨-2147483648, -32768, 1, "O;\"R\"\r\n,", 9223372036854775807⟩,
  ⟨2147483647, 32767, 2, "", 0⟩]

/-- These rows are loaded from both files, the columnar one also in batches of one row. -/
theorem load_sample_sharpSample :
    (∀ r ∈ sharpSample, r.Proper) ∧
      ∃ registry : Registry, registry.registrations = sharpSample.map Row.registration ∧
        load "a.csv" (.bytes (toDelimited sharpSample)) = .ok registry ∧
        load "b.parquet" (.table (toColumnar sharpSample)) = .ok registry ∧
        load "b.parquet" (.table { toColumnar sharpSample with
          batches := sharpSample.map fun r => [r.cells] }) = .ok registry := by
  have proper : ∀ r ∈ sharpSample, r.Proper := by decide
  obtain ⟨registry, held, -, delimited, columnar, cuts⟩ :=
    @load_sample "a.csv" "b.parquet" (by decide) (by decide) sharpSample proper
  exact ⟨proper, registry, held, delimited, columnar, cuts _ rfl⟩

end GivenNames.Sample
