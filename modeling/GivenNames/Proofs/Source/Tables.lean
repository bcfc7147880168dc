import GivenNames.Proofs.Source.Checks
import GivenNames.Proofs.Source.Layouts
import GivenNames.Source.Load
import Mathlib.Data.List.Forall2

/-!
Rows of tables, one after another.

Both kinds of tables are read by one loop, which numbers the rows and stops at the first that is no
registration (`scan`); it does not see where a columnar table is cut into batches. Main statements:
rows whose readings are those of registrations give all of them (`scan_of_readings`); otherwise the
loop stops at the first row that fails a check, with its number and a fault of that check
(`scan_of_failing`). Where it gives registrations each row gives its own (`scan_eq_ok_iff`), and
where it stops it is for the fault of a row (`scan_eq_error`). A delimited file that was written, and
is taken for what it is, is scanned row by row (`delimited_of_guessed`), and so is a columnar table
(`columnar_table`). In no delimited source is a value missing (`delimited_ne_absent`).
-/

namespace GivenNames.Load

open RowCells (ofCells ofFields)

/-! ### The loop over rows -/

section Scan

variable {ρ : Type} {cells : ρ → RowCells} {fault : Nat → RowFault → SourceFault}

/-- The registrations of rows, the first of which has the given number. -/
def scan (cells : ρ → RowCells) (fault : Nat → RowFault → SourceFault) (number : Nat) :
    List ρ → Except SourceFault (List Registration)
  | [] => .ok []
  | row :: rest =>
    match (cells row).registration with
    | .error f => .error (fault number f)
    | .ok r => (scan cells fault (number + 1) rest).map (r :: ·)

/-- Rows whose readings are those of registrations give these registrations, in order. -/
theorem scan_of_readings {rows : List ρ} {rs : List Registration}
    (read : (rows.map fun row => (cells row).reading) = rs.map .of) (number : Nat) :
    scan cells fault number rows = .ok rs := by
  induction rows generalizing rs number with
  | nil =>
      obtain rfl : rs = [] := by simpa using read.symm
      rfl
  | cons row rows ih =>
      obtain ⟨r, rs, rfl, here, others⟩ := List.map_eq_cons_iff.mp read.symm
      simp [scan, RowCells.registration_of_reading here.symm, ih others.symm, Except.map]

/-- The loop stops at the first row that fails a check, with a fault of that check. -/
theorem scan_of_failing {rows : List ρ} {before : List Registration} {bad : Reading}
    {after : List Reading} {check : Check}
    (words : ∀ row ∈ rows, ∀ n, (cells row).integer .count = .ok n → Integer.InInt64 n)
    (read : (rows.map fun row => (cells row).reading) = before.map .of ++ bad :: after)
    (fails : bad.failing? = some check) (number : Nat) :
    ∃ f, f.check = check ∧
      scan cells fault number rows = .error (fault (number + before.length) f) := by
  induction before generalizing rows number with
  | nil =>
      obtain ⟨row, rows, rfl, here, _⟩ := List.map_eq_cons_iff.mp read
      have refused := RowCells.refusedBy_registration (words row List.mem_cons_self)
      rw [here, fails] at refused
      obtain ⟨f, result, about⟩ := refused
      exact ⟨f, about, by simp [scan, result]⟩
  | cons r before ih =>
      obtain ⟨row, rows, rfl, here, others⟩ := List.map_eq_cons_iff.mp read
      have later := fun other member => words other (List.mem_cons_of_mem row member)
      obtain ⟨f, about, stops⟩ := ih later others (number + 1)
      refine ⟨f, about, ?_⟩
      have place : number + 1 + before.length = number + (before.length + 1) := by omega
      simp [scan, RowCells.registration_of_reading here, stops, Except.map, place]

theorem scan_congr {σ : Type} {cells' : σ → RowCells} {rows : List ρ} {rows' : List σ}
    (same : rows.map cells = rows'.map cells') (number : Nat) :
    scan cells fault number rows = scan cells' fault number rows' := by
  induction rows generalizing rows' number with
  | nil =>
      obtain rfl : rows' = [] := by simpa using same.symm
      rfl
  | cons row rows ih =>
      obtain ⟨row', rows', rfl, here, others⟩ := List.map_eq_cons_iff.mp same.symm
      simp only [scan, here, ih others.symm]

theorem scan_append (rows more : List ρ) (number : Nat) :
    scan cells fault number (rows ++ more) =
      match scan cells fault number rows with
      | .error f => .error f
      | .ok rs => (scan cells fault (number + rows.length) more).map (rs ++ ·) := by
  induction rows generalizing number with
  | nil =>
      simp only [scan, List.nil_append, List.length_nil, Nat.add_zero]
      cases scan cells fault number more <;> rfl
  | cons row rows ih =>
      have place : number + 1 + rows.length = number + (row :: rows).length := by
        simp only [List.length_cons]
        omega
      simp only [List.cons_append, scan, ih, place]
      cases (cells row).registration with
      | error f => rfl
      | ok r =>
          cases scan cells fault _ rows with
          | error f => rfl
          | ok rs => cases scan cells fault _ more <;> rfl

/-- The loop gives registrations exactly where each row gives its own. -/
theorem scan_eq_ok_iff {rows : List ρ} {rs : List Registration} {number : Nat} :
    scan cells fault number rows = .ok rs ↔
      List.Forall₂ (fun row r => (cells row).registration = .ok r) rows rs := by
  induction rows generalizing rs number with
  | nil => simp [scan, eq_comm]
  | cons row rows ih =>
      cases result : (cells row).registration with
      | error f => simp [scan, result, List.forall₂_cons_left_iff]
      | ok r =>
          simp only [scan, result, map_eq_ok_iff, ih, List.forall₂_cons_left_iff, Except.ok.injEq]
          constructor
          · rintro ⟨others, each, rfl⟩
            exact ⟨r, others, rfl, each, rfl⟩
          · rintro ⟨_, others, rfl, each, rfl⟩
            exact ⟨others, each, rfl⟩

/-- Where the loop stops, it is at the first row that gives no registration, for the fault of that
row. -/
theorem scan_eq_error {rows : List ρ} {e : SourceFault} {number : Nat}
    (stops : scan cells fault number rows = .error e) :
    ∃ before bad after f, rows = before ++ bad :: after ∧
      (∀ row ∈ before, ∃ r, (cells row).registration = .ok r) ∧
      (cells bad).registration = .error f ∧ fault (number + before.length) f = e := by
  induction rows generalizing number with
  | nil => cases stops
  | cons row rows ih =>
      cases result : (cells row).registration with
      | error f =>
          simp only [scan, result] at stops
          exact ⟨[], row, rows, f, rfl, by simp, result, Except.error.inj stops⟩
      | ok r =>
          simp only [scan, result] at stops
          obtain ⟨before, bad, after, f, rfl, good, refused, rfl⟩ := ih (map_eq_error_iff.mp stops)
          refine ⟨row :: before, bad, after, f, rfl, ?_, refused, ?_⟩
          · exact List.forall_mem_cons.mpr ⟨⟨r, result⟩, good⟩
          · have place : number + (before.length + 1) = number + 1 + before.length := by omega
            rw [List.length_cons, place]

end Scan

/-! ### Delimited tables -/

theorem records_eq_scan (layout : Layout) (rows : List (List String)) (number : Nat) :
    records layout number (rows.map .ok) =
      scan (ofFields layout) .delimitedRow number rows := by
  induction rows generalizing number with
  | nil => rfl
  | cons fields rows ih =>
      cases row : (ofFields layout fields).registration <;>
        simp only [List.map_cons, records, scan, row, ih]

/-- A delimited file that was written, and is taken for what it is, is scanned row by row. -/
theorem delimited_of_guessed {separator : Delimited.Separator} {header : List String}
    {layout : Layout} (located : Layout.ofHeaders header = .ok layout) {rows : List (List String)}
    (guessed : ∃ line,
      Text.decode? (Text.firstLine (Delimited.write separator (header :: rows))) = some line ∧
        Delimited.Separator.ofFirstLine line = separator)
    (even : ∀ fields ∈ rows, fields.length = header.length) :
    delimited (.bytes (Delimited.write separator (header :: rows))) =
      scan (ofFields layout) .delimitedRow 1 rows := by
  have wide := Layout.two_le_length located
  obtain ⟨line, text, taken⟩ := guessed
  simp only [delimited, delimitedBytes, text, taken, Delimited.read_write wide even,
    delimitedTable, Layout.ofHeaders_unmarked, located, records_eq_scan]

/-- A delimited file that was written with one line of headers is scanned row by row. -/
theorem delimited_write {header : List String} {layout : Layout}
    (located : Layout.ofHeaders header = .ok layout)
    (oneLine : ∀ h ∈ header, '\n' ∉ h.toList) {rows : List (List String)}
    (even : ∀ fields ∈ rows, fields.length = header.length) :
    delimited (.bytes (Delimited.write .semicolon (header :: rows))) =
      scan (ofFields layout) .delimitedRow 1 rows :=
  delimited_of_guessed located
    (Delimited.ofFirstLine_write (Layout.two_le_length located) oneLine rows) even

/-! ### No value is missing -/

/-- Where no cell is missing, none is reported as missing. -/
theorem registration_ne_absent {row : RowCells} (integers : ∀ c, row.integer c ≠ .error .absent)
    (texts : ∀ c, row.text c ≠ .error .absent) (c : Column) :
    row.registration ≠ .error (.cell c .absent) := by
  intro missing
  have number (d : Column) : row.number d ≠ .error (.cell c .absent) := by
    intro same
    obtain ⟨fault, found, ⟨⟩⟩ := mapError_eq_error_iff.mp same
    exact integers c found
  have string (d : Column) : row.string d ≠ .error (.cell c .absent) := by
    intro same
    obtain ⟨fault, found, ⟨⟩⟩ := mapError_eq_error_iff.mp same
    exact texts c found
  have year (n : Int) : RowCells.yearOf n ≠ .error (.cell c .absent) := by
    simp [RowCells.yearOf, mapError_eq_error_iff]
  have gender (n : Int) : RowCells.genderOf n ≠ .error (.cell c .absent) := by
    unfold RowCells.genderOf
    split
    · simp
    · split <;> simp
  have count (n : Int) : RowCells.countOf n ≠ .error (.cell c .absent) := by
    simp [RowCells.countOf, mapError_eq_error_iff]
  simp only [RowCells.registration, bind_eq_error_iff, number, string, year, gender, count,
    pure, Except.pure, reduceCtorEq, and_false, exists_false, or_false] at missing

theorem fieldText_ne_absent {fields : List String} {position : Nat}
    (within : position < fields.length) : RowCells.fieldText fields position ≠ .error .absent := by
  simp [RowCells.fieldText, List.getElem?_eq_getElem within]

theorem fieldInteger_ne_absent {fields : List String} {position : Nat}
    (within : position < fields.length) :
    RowCells.fieldInteger fields position ≠ .error .absent := by
  simp only [RowCells.fieldInteger, RowCells.fieldText, List.getElem?_eq_getElem within]
  simp [mapError_eq_error_iff]

theorem records_ne_absent {layout : Layout} {width : Nat}
    (within : ∀ c, layout.position c < width)
    {items : List (Except Delimited.Fault (List String))}
    (even : ∀ fields, .ok fields ∈ items → fields.length = width) (number n : Nat) (c : Column) :
    records layout number items ≠ .error (.delimitedRow n (.cell c .absent)) := by
  induction items generalizing number with
  | nil => simp [records]
  | cons item items ih =>
      have others := ih (fun fields member => even fields (List.mem_cons_of_mem item member))
      cases item with
      | error fault => simp [records]
      | ok fields =>
          have wide := even fields List.mem_cons_self
          have present : (ofFields layout fields).registration ≠ .error (.cell c .absent) :=
            registration_ne_absent (fun d => fieldInteger_ne_absent (wide ▸ within d))
              (fun d => fieldText_ne_absent (wide ▸ within d)) c
          simp only [records]
          cases found : (ofFields layout fields).registration with
          | error fault =>
              intro same
              simp only [Except.error.injEq, SourceFault.delimitedRow.injEq] at same
              exact present (found.trans (congrArg _ same.2))
          | ok r => exact fun same => others (number + 1) (map_eq_error_iff.mp same)

/-- In no delimited source is a value reported as missing. -/
theorem delimited_ne_absent (content : Content) (n : Nat) (c : Column) :
    delimited content ≠ .error (.delimitedRow n (.cell c .absent)) := by
  cases content with
  | nothing why => simp [delimited]
  | directory => simp [delimited]
  | table table => simp [delimited]
  | bytes bytes =>
      simp only [delimited, delimitedBytes]
      split
      · simp
      · simp only [delimitedTable]
        split
        · simp
        · rename_i header headed
          split
          · simp
          · rename_i layout located
            exact records_ne_absent (Layout.position_lt located)
              (fun fields member => Delimited.length_of_read headed member) 1 n c

/-! ### Columnar tables -/

theorem batchRows_eq_scan (layout : Layout) (rows : List (List Columnar.Cell)) (number : Nat) :
    batchRows layout number rows = scan (ofCells layout) .columnarRow number rows := by
  induction rows generalizing number with
  | nil => rfl
  | cons row rows ih =>
      cases result : (ofCells layout row).registration <;>
        simp only [batchRows, scan, result, ih]

/-- Batches are scanned as the rows they hold, wherever they are cut. -/
theorem batches_eq_scan (layout : Layout) (cut : List (List (List Columnar.Cell)))
    (number : Nat) :
    batches layout number cut = scan (ofCells layout) .columnarRow number cut.flatten := by
  induction cut generalizing number with
  | nil => rfl
  | cons batch cut ih =>
      cases result : scan (ofCells layout) .columnarRow number batch <;>
        simp only [List.flatten_cons, scan_append, batches, batchRows_eq_scan, result, ih]

theorem columnar_table {header : List String} {layout : Layout}
    (located : Layout.ofHeaders header = .ok layout) (cut : List (List (List Columnar.Cell))) :
    columnar (.table ⟨header, cut⟩) = scan (ofCells layout) .columnarRow 0 cut.flatten := by
  simp only [columnar, columnarTable, located, batches_eq_scan]

end GivenNames.Load
