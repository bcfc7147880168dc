import GivenNames.Proofs.Source.Cells
import GivenNames.Proofs.Source.TextTables
import Mathlib.Data.List.Forall2

/-!
Typed tables in batches.

The cells of a row are those that stand at its place in the columns (`TypedRow.ofColumns`). Whether
a row passes a check, which registration it holds and what fault it has are told by what its cells
say. Main statement: columns of one height, among them the five that are needed, come to one outcome
wherever their rows are cut into batches. The outcome is the registrations that the rows hold, in
order, if all rows pass all checks, and otherwise a fault of the first row that does not, for the
first check that it fails (`Load.columnar_decodes`).
-/

namespace GivenNames

/-- The cells of a row, by the columns of registrations. -/
abbrev TypedRow := Column → Option Columnar.Cell

namespace TypedRow

open RowCells (ofCells)

/-- The cells at a place of columns that have this layout. -/
def ofColumns (layout : Layout) (columns : List Columnar.Column) (place : Nat) : TypedRow :=
  fun c => columns[layout.position c]?.bind fun column => column.typedCells[place]?

/-- The integer that a row says in a column. -/
def SaysInteger (row : TypedRow) (c : Column) (n : Int) : Prop :=
  ∃ cell ∈ row c, cell.SaysInteger n

/-- The text that a row says in a column. -/
def SaysText (row : TypedRow) (c : Column) (s : String) : Prop :=
  ∃ cell ∈ row c, cell.SaysText s

/-- Whether a row passes a check. Where there is no integer, only the check for one fails. -/
def Passes (row : TypedRow) : Check → Prop
  | .yearInteger => ∃ n, row.SaysInteger .year n
  | .yearRange => ∀ n, row.SaysInteger .year n → -0x80000000 ≤ n ∧ n ≤ 0x7fffffff
  | .genderInteger => ∃ n, row.SaysInteger .gender n
  | .countInteger => ∃ n, row.SaysInteger .count n
  | .district => ∃ s, row.SaysText .district s
  | .genderCode => ∀ n, row.SaysInteger .gender n → n = 1 ∨ n = 2
  | .name => ∃ s, row.SaysText .name s
  | .countSign => ∀ n, row.SaysInteger .count n → 0 ≤ n

/-- A row holds a registration: it says what the registration consists of. -/
structure Holds (row : TypedRow) (r : Registration) : Prop where
  year : row.SaysInteger .year r.year.toInt
  district : row.SaysText .district r.district
  gender : row.SaysInteger .gender r.gender.code.toNat
  name : row.SaysText .name r.name
  count : row.SaysInteger .count r.count.toNat

/-- The faults that a row can have: those of its cells, and those of the integers it says. -/
inductive Faulty (row : TypedRow) : RowFault → Prop
  | integer {c : Column} {cell : Columnar.Cell} {fault : CellFault} (here : cell ∈ row c)
      (number : c = .year ∨ c = .gender ∨ c = .count) (refuses : cell.RefusesInteger fault) :
      Faulty row (.cell c fault)
  | text {c : Column} {cell : Columnar.Cell} {fault : CellFault} (here : cell ∈ row c)
      (word : c = .district ∨ c = .name) (refuses : cell.Refuses fault) :
      Faulty row (.cell c fault)
  | year {n : Int} {reason : IntegerError} (said : row.SaysInteger .year n)
      (beyond : Integer.Beyond (-0x80000000) 0x7fffffff n reason) :
      Faulty row (.value (.yearOutOfRange n reason))
  | code {n : Int} {reason : IntegerError} (said : row.SaysInteger .gender n)
      (beyond : Integer.Beyond 0 255 n reason) : Faulty row (.value (.genderOutOfRange n reason))
  | gender {n : Nat} (said : row.SaysInteger .gender n) (small : n ≤ 255)
      (unknown : n ≠ 1 ∧ n ≠ 2) : Faulty row (.value (.unknownGender n))
  | count {n : Int} (said : row.SaysInteger .count n) (negative : n < 0) :
      Faulty row (.value (.negativeCount n .tooSmall))

/-- What rows come to. -/
inductive Decodes (rows : List TypedRow) : Except SourceFault (List Registration) → Prop
  | loaded {rs : List Registration} (each : List.Forall₂ Holds rows rs) : Decodes rows (.ok rs)
  | refused {before after : List TypedRow} {bad : TypedRow} {earlier later : List Check}
      {check : Check} {fault : RowFault} {more : String} (split : rows = before ++ bad :: after)
      (good : ∀ row ∈ before, ∀ check, row.Passes check)
      (order : Check.order = earlier ++ check :: later) (passed : ∀ c ∈ earlier, bad.Passes c)
      (failed : ¬ bad.Passes check) (about : fault.check = check) (faulty : bad.Faulty fault)
      (named : (SourceFault.columnarRow before.length fault).causes.head? =
        some ("Row " ++ Integer.natText before.length ++ more)) :
      Decodes rows (.error (.columnarRow before.length fault))

theorem SaysInteger.unique {row : TypedRow} {c : Column} {n m : Int}
    (said : row.SaysInteger c n) (said' : row.SaysInteger c m) : n = m := by
  obtain ⟨cell, here, first⟩ := said
  obtain ⟨cell', here', second⟩ := said'
  rw [here] at here'
  cases here'
  exact first.unique second

/-- A row that holds a registration passes every check. -/
theorem Holds.passes {row : TypedRow} {r : Registration} (holds : row.Holds r) (check : Check) :
    row.Passes check := by
  cases check with
  | yearInteger => exact ⟨_, holds.year⟩
  | yearRange =>
      intro n said
      obtain rfl := said.unique holds.year
      exact ⟨r.year.le_toInt, Int.le_of_lt_add_one r.year.toInt_lt⟩
  | genderInteger => exact ⟨_, holds.gender⟩
  | countInteger => exact ⟨_, holds.count⟩
  | district => exact ⟨_, holds.district⟩
  | genderCode =>
      intro n said
      obtain rfl := said.unique holds.gender
      cases r.gender with
      | male => exact .inl rfl
      | female => exact .inr rfl
  | name => exact ⟨_, holds.name⟩
  | countSign =>
      intro n said
      obtain rfl := said.unique holds.count
      exact Int.natCast_nonneg _

/-! ### One row -/

/-- The cells of a row that stand side by side. -/
def side (layout : Layout) (cells : List Columnar.Cell) : TypedRow := fun c =>
  cells[layout.position c]?

section Row

variable {layout : Layout} {cells : List Columnar.Cell} {c : Column}

theorem integer_eq_ok_iff {n : Int} :
    (ofCells layout cells).integer c = .ok n ↔ (side layout cells).SaysInteger c n := by
  simp only [ofCells, RowCells.contentAt, SaysInteger, side]
  cases cells[layout.position c]? with
  | none => simp
  | some cell => simpa using Columnar.Cell.contentInteger_eq_ok_iff

theorem text_eq_ok_iff {s : String} :
    (ofCells layout cells).text c = .ok s ↔ (side layout cells).SaysText c s := by
  simp only [ofCells, RowCells.contentAt, SaysText, side]
  cases cells[layout.position c]? with
  | none => simp
  | some cell => simpa using Columnar.Cell.contentText_eq_ok_iff

/-- The checks of what is read of a row are the checks of what the row says. -/
theorem passes_reading_iff {check : Check} :
    (ofCells layout cells).reading.passes check = true ↔ (side layout cells).Passes check := by
  cases check <;>
    simp [Reading.passes, RowCells.reading, Passes, Option.isSome_iff_exists, Option.all_eq_true,
      toOption_eq_some_iff, integer_eq_ok_iff, text_eq_ok_iff]

theorem holds_of_reading {r : Registration} (read : (ofCells layout cells).reading = .of r) :
    (side layout cells).Holds r := by
  simp only [RowCells.reading, Reading.of, Reading.mk.injEq, toOption_eq_some_iff] at read
  obtain ⟨year, district, gender, name, count⟩ := read
  exact ⟨integer_eq_ok_iff.mp year, text_eq_ok_iff.mp district, integer_eq_ok_iff.mp gender,
    text_eq_ok_iff.mp name, integer_eq_ok_iff.mp count⟩

/-- A row that says what a registration consists of is taken as that registration. -/
theorem registration_of_holds {r : Registration} (holds : (side layout cells).Holds r) :
    (ofCells layout cells).registration = .ok r := by
  apply RowCells.registration_of_reading
  simp only [RowCells.reading, Reading.of, Reading.mk.injEq, toOption_eq_some_iff]
  exact ⟨integer_eq_ok_iff.mpr holds.year, text_eq_ok_iff.mpr holds.district,
    integer_eq_ok_iff.mpr holds.gender, text_eq_ok_iff.mpr holds.name,
    integer_eq_ok_iff.mpr holds.count⟩

/-! The steps in which a row is taken, each with the faults that it can end in. -/

section Faults

variable {fault : RowFault}

theorem exists_cell (present : (side layout cells c).isSome) :
    ∃ cell, side layout cells c = some cell ∧
      (ofCells layout cells).integer c = RowCells.contentInteger cell.content ∧
        (ofCells layout cells).text c = RowCells.contentText cell.content := by
  obtain ⟨cell, here⟩ := Option.isSome_iff_exists.mp present
  have found : cells[layout.position c]? = some cell := here
  refine ⟨cell, here, ?_, ?_⟩
  · simp only [ofCells, RowCells.contentAt, found]
  · simp only [ofCells, RowCells.contentAt, found]

theorem faulty_of_number (present : (side layout cells c).isSome)
    (number : c = .year ∨ c = .gender ∨ c = .count)
    (refused : (ofCells layout cells).number c = .error fault) :
    (side layout cells).Faulty fault := by
  obtain ⟨cell, here, integer, -⟩ := exists_cell present
  obtain ⟨cause, read, rfl⟩ := mapError_eq_error_iff.mp refused
  rw [integer] at read
  exact .integer here number (Columnar.Cell.refusesInteger_of_error read)

theorem faulty_of_string (present : (side layout cells c).isSome)
    (word : c = .district ∨ c = .name)
    (refused : (ofCells layout cells).string c = .error fault) :
    (side layout cells).Faulty fault := by
  obtain ⟨cell, here, -, text⟩ := exists_cell present
  obtain ⟨cause, read, rfl⟩ := mapError_eq_error_iff.mp refused
  rw [text] at read
  exact .text here word (Columnar.Cell.refusesText_of_error read)

variable {row : TypedRow} {n : Int}

theorem faulty_of_yearOf (said : row.SaysInteger .year n)
    (refused : RowCells.yearOf n = .error fault) : row.Faulty fault := by
  obtain ⟨reason, outside, rfl⟩ := mapError_eq_error_iff.mp refused
  exact .year said (Integer.inRange_eq_error_iff.mp (map_eq_error_iff.mp outside))

theorem faulty_of_genderOf (said : row.SaysInteger .gender n)
    (refused : RowCells.genderOf n = .error fault) : row.Faulty fault := by
  unfold RowCells.genderOf at refused
  cases code : Integer.toUInt8 n with
  | error reason =>
      rw [code] at refused
      cases refused
      exact .code said (Integer.inRange_eq_error_iff.mp (map_eq_error_iff.mp code))
  | ok k =>
      simp only [code] at refused
      obtain ⟨m, inside, rfl⟩ := map_eq_ok_iff.mp code
      obtain ⟨rfl, least, greatest⟩ := Integer.inRange_eq_ok_iff.mp inside
      split at refused
      · contradiction
      · rename_i unknown
        cases refused
        have small : m.toNat ≤ 255 := by omega
        have value : m.toNat.toUInt8.toNat = m.toNat := by simp; omega
        have natural : (m.toNat : Int) = m := Int.toNat_of_nonneg least
        rw [value]
        refine .gender (by rwa [natural]) small ⟨?_, ?_⟩
        · intro one
          rw [one] at unknown
          contradiction
        · intro two
          rw [two] at unknown
          contradiction

theorem faulty_of_countOf (said : row.SaysInteger .count n) (word : Integer.InInt64 n)
    (refused : RowCells.countOf n = .error fault) : row.Faulty fault := by
  have negative : n < 0 := by
    by_contra natural
    have count := RowCells.countOf_toNat (UInt64.ofNat n.toNat)
    rw [Integer.toNat_ofNat_toNat (Int.not_lt.mp natural) word, refused] at count
    contradiction
  rw [RowCells.countOf_negative negative] at refused
  cases refused
  exact .count said negative

/-- A row is refused for a fault that it has. -/
theorem faulty_of_registration (present : ∀ c, (side layout cells c).isSome)
    (refused : (ofCells layout cells).registration = .error fault) :
    (side layout cells).Faulty fault := by
  simp only [RowCells.registration, bind_eq_error_iff, pure, Except.pure, reduceCtorEq, and_false,
    exists_false, or_false] at refused
  rcases refused with
    year | ⟨y, year, range | ⟨_, -, gender | ⟨g, gender, count | ⟨k, count, rest⟩⟩⟩⟩
  · exact faulty_of_number (present .year) (.inl rfl) year
  · exact faulty_of_yearOf (integer_eq_ok_iff.mp (RowCells.integer_of_number year)) range
  · exact faulty_of_number (present .gender) (.inr (.inl rfl)) gender
  · exact faulty_of_number (present .count) (.inr (.inr rfl)) count
  · rcases rest with district | ⟨_, -, code | ⟨_, -, name | ⟨_, -, sign⟩⟩⟩
    · exact faulty_of_string (present .district) (.inl rfl) district
    · exact faulty_of_genderOf (integer_eq_ok_iff.mp (RowCells.integer_of_number gender)) code
    · exact faulty_of_string (present .name) (.inr rfl) name
    · have read := RowCells.integer_of_number count
      exact faulty_of_countOf (integer_eq_ok_iff.mp read) (RowCells.inInt64_of_cells read) sign

end Faults

/-! What rows that are taken or refused say. -/

theorem holds_of_registration {r : Registration}
    (taken : (ofCells layout cells).registration = .ok r) : (side layout cells).Holds r :=
  holds_of_reading (RowCells.reading_of_registration (fun _ => RowCells.inInt64_of_cells) taken)

/-- A row is refused for the first check that it fails. -/
theorem failed_of_registration {fault : RowFault}
    (refused : (ofCells layout cells).registration = .error fault) :
    ∃ earlier later, Check.order = earlier ++ fault.check :: later ∧
      (∀ check ∈ earlier, (side layout cells).Passes check) ∧
      ¬ (side layout cells).Passes fault.check := by
  have first := RowCells.failing?_of_registration (fun _ => RowCells.inInt64_of_cells) refused
  obtain ⟨fails, earlier, later, order, passed⟩ := List.find?_eq_some_iff_append.mp first
  refine ⟨earlier, later, order, ?_, ?_⟩
  · intro check member
    exact passes_reading_iff.mp (by simpa using passed check member)
  · rw [← passes_reading_iff]
    simpa using fails

end Row

/-! ### All rows -/

/-- Rows without gaps come to what they decode to. -/
theorem decodes_scan (layout : Layout) {rows : List (List Columnar.Cell)}
    (present : ∀ cells ∈ rows, ∀ c, (side layout cells c).isSome) :
    Decodes (rows.map (side layout)) (Load.scan (ofCells layout) .columnarRow 0 rows) := by
  cases result : Load.scan (ofCells layout) .columnarRow 0 rows with
  | ok rs =>
      refine .loaded ?_
      rw [List.forall₂_map_left_iff]
      exact (Load.scan_eq_ok_iff.mp result).imp fun _ _ => holds_of_registration
  | error fault =>
      obtain ⟨before, bad, after, cause, rfl, good, refused, rfl⟩ := Load.scan_eq_error result
      obtain ⟨earlier, later, order, passed, failed⟩ := failed_of_registration refused
      obtain ⟨more, named⟩ := TextTable.head?_causes_columnarRow before.length cause
      have here : ∀ c, (side layout bad c).isSome := present bad (by simp)
      have places : (before.map (side layout)).length = before.length := List.length_map _
      rw [Nat.zero_add, ← places]
      rw [← places] at named
      have split : (before ++ bad :: after).map (side layout) =
          before.map (side layout) ++ side layout bad :: after.map (side layout) := by
        rw [List.map_append, List.map_cons]
      refine .refused split ?_ order passed failed rfl (faulty_of_registration here refused) named
      intro row member check
      obtain ⟨cells, earlierRow, rfl⟩ := List.mem_map.mp member
      obtain ⟨r, taken⟩ := good cells earlierRow
      exact (holds_of_registration taken).passes check

/-- Rows come to registrations exactly where all of them pass all checks. -/
theorem Decodes.isOk_iff {rows : List TypedRow} {outcome : Except SourceFault (List Registration)}
    (decodes : Decodes rows outcome) :
    (∃ rs, outcome = .ok rs) ↔ ∀ row ∈ rows, ∀ check, row.Passes check := by
  cases decodes with
  | loaded each =>
      have passes : ∀ row ∈ rows, ∀ check, row.Passes check := by
        induction each with
        | nil => simp
        | cons holds _ ih => exact List.forall_mem_cons.mpr ⟨holds.passes, ih⟩
      exact ⟨fun _ => passes, fun _ => ⟨_, rfl⟩⟩
  | refused split good order passed failed about faulty named =>
      constructor
      · rintro ⟨rs, taken⟩
        cases taken
      · intro passes
        exact absurd (passes _ (by rw [split]; simp) _) failed

/-! ### Columns side by side -/

section Columns

open Columnar (rowsOf)

variable {columns : List Columnar.Column} {height : Nat}

theorem length_typedCells (column : Columnar.Column) :
    column.typedCells.length = column.cells.length :=
  List.length_map _

theorem length_rowsOf (given : columns ≠ [])
    (even : ∀ column ∈ columns, column.cells.length = height) :
    (rowsOf columns).length = height := by
  induction columns with
  | nil => exact absurd rfl given
  | cons column columns ih =>
      have here := even column List.mem_cons_self
      have others := fun other member => even other (List.mem_cons_of_mem column member)
      cases columns with
      | nil => simpa [rowsOf, length_typedCells] using here
      | cons next columns =>
          have below := ih (List.cons_ne_nil _ _) others
          simp [rowsOf, length_typedCells, here, below]

/-- Each row has the cells that stand at its place in the columns. -/
theorem getElem?_rowsOf {place : Nat} {cells : List Columnar.Cell}
    (here : (rowsOf columns)[place]? = some cells) (position : Nat) :
    cells[position]? = columns[position]?.bind fun column => column.typedCells[place]? := by
  induction columns generalizing cells position with
  | nil => simp [rowsOf] at here
  | cons column columns ih =>
      cases columns with
      | nil =>
          simp only [rowsOf, List.getElem?_map, Option.map_eq_some_iff] at here
          obtain ⟨cell, found, rfl⟩ := here
          cases position <;> simp [found]
      | cons next columns =>
          obtain ⟨cell, below, found, rest, rfl⟩ := List.getElem?_zipWith_eq_some.mp here
          cases position with
          | zero => simp [found]
          | succ position => simpa using ih rest position

/-- The rows of columns, told by what stands side by side and by what stands at each place. -/
theorem map_side_rowsOf (layout : Layout) (given : columns ≠ [])
    (even : ∀ column ∈ columns, column.cells.length = height) :
    (rowsOf columns).map (side layout) = (List.range height).map (ofColumns layout columns) := by
  refine List.ext_getElem? fun place => ?_
  rw [List.getElem?_map, List.getElem?_map]
  cases here : (rowsOf columns)[place]? with
  | none =>
      have beyond : height ≤ place := by
        rw [← length_rowsOf given even]
        exact List.getElem?_eq_none_iff.mp here
      rw [List.getElem?_eq_none (by simpa using beyond)]
      rfl
  | some cells =>
      have within : place < height := by
        rw [← length_rowsOf given even]
        exact (List.getElem?_eq_some_iff.mp here).1
      rw [List.getElem?_range within]
      refine congrArg some (funext fun c => ?_)
      exact getElem?_rowsOf here (layout.position c)

variable {layout : Layout}

/-- Where the columns are located, no cell of a row is missing. -/
theorem isSome_side (located : Layout.ofHeaders (columns.map Columnar.Column.name) = .ok layout)
    (even : ∀ column ∈ columns, column.cells.length = height) {cells : List Columnar.Cell}
    (member : cells ∈ rowsOf columns) (c : Column) : (side layout cells c).isSome := by
  have inside : layout.position c < columns.length := by
    simpa using Layout.position_lt located c
  have given : columns ≠ [] := List.ne_nil_of_length_pos (by omega)
  obtain ⟨place, here⟩ := List.getElem?_of_mem member
  have within : place < height := by
    rw [← length_rowsOf given even]
    exact (List.getElem?_eq_some_iff.mp here).1
  have tall : place < columns[layout.position c].typedCells.length := by
    rw [length_typedCells, even _ (List.getElem_mem inside)]
    exact within
  rw [side, getElem?_rowsOf here, List.getElem?_eq_getElem inside, Option.bind_some,
    List.getElem?_eq_getElem tall]
  rfl

end Columns

end TypedRow

/-- Columns of one height, among them the five that are needed, come to one outcome wherever their
rows are cut into batches. It is the registrations that the rows hold, in order, exactly if all rows
pass all checks; otherwise it is a fault of the first row that does not, numbered from 0, for the
first check that it fails. -/
theorem Load.columnar_decodes {columns : List Columnar.Column} {height : Nat} {layout : Layout}
    (even : ∀ column ∈ columns, column.cells.length = height)
    (located : Layout.ofHeaders (columns.map Columnar.Column.name) = .ok layout) :
    let rows := (List.range height).map (TypedRow.ofColumns layout columns)
    ∃ outcome, TypedRow.Decodes rows outcome ∧
      ((∃ rs, outcome = .ok rs) ↔ ∀ row ∈ rows, ∀ check, row.Passes check) ∧
      ∀ cut : List (List (List Columnar.Cell)), cut.flatten = Columnar.rowsOf columns →
        columnar (.table ⟨columns.map Columnar.Column.name, cut⟩) = outcome := by
  have given : columns ≠ [] := by
    rintro rfl
    have inside := Layout.position_lt located .year
    simp at inside
  have decodes := TypedRow.decodes_scan layout fun cells member =>
    TypedRow.isSome_side located even member
  rw [TypedRow.map_side_rowsOf layout given even] at decodes
  refine ⟨_, decodes, decodes.isOk_iff, fun cut whole => ?_⟩
  rw [columnar_table located, whole]

/-- Columns of six types, one of which no registration is read from. The second row has a count
beyond 64 bits with a sign, and the third, behind it, a null year. -/
def TypedRow.mixedSample : List Columnar.Column :=
  [⟨"Count", .uint64, [some 3, some 0xffffffffffffffff, some 5]⟩,
    ⟨"note", .other "Float64", [none, some (), none]⟩,
    ⟨"C-JAHR-0", .int32, [some 1990, some 2000, none]⟩,
    ⟨"name", .largeUtf8, [some "Alex", some " Eva", some ""]⟩,
    ⟨"gender", .utf8, [some " 1\u3000", some "+2", some "x"]⟩,
    ⟨"District", .int8, [some (-7), some 3, none]⟩]

theorem Load.columnar_decodes_mixedSample :
    let rows := (List.range 3).map (TypedRow.ofColumns ⟨2, 5, 4, 3, 0⟩ TypedRow.mixedSample)
    let names := TypedRow.mixedSample.map Columnar.Column.name
    let whole := Columnar.rowsOf TypedRow.mixedSample
    (∀ column ∈ TypedRow.mixedSample, column.cells.length = 3) ∧
      Layout.ofHeaders names = .ok ⟨2, 5, 4, 3, 0⟩ ∧
      ∃ fault, fault = .columnarRow 1 (.cell .count (.beyondInt64 0xffffffffffffffff .tooLarge)) ∧
        TypedRow.Decodes rows (.error fault) ∧
        columnar (.table ⟨names, [whole]⟩) = .error fault ∧
        columnar (.table ⟨names, [[], whole.take 1, [], whole.drop 1]⟩) = .error fault := by
  intro rows names whole
  have even : ∀ column ∈ TypedRow.mixedSample, column.cells.length = 3 := by decide
  have located : Layout.ofHeaders names = .ok ⟨2, 5, 4, 3, 0⟩ := rfl
  obtain ⟨outcome, decodes, -, cuts⟩ := columnar_decodes even located
  have once := cuts [whole] rfl
  have twice := cuts [[], whole.take 1, [], whole.drop 1] rfl
  have refused : columnar (.table ⟨names, [whole]⟩) =
      .error (.columnarRow 1 (.cell .count (.beyondInt64 0xffffffffffffffff .tooLarge))) := rfl
  rw [refused] at once
  subst once
  exact ⟨even, located, _, rfl, decodes, refused, twice⟩

end GivenNames
