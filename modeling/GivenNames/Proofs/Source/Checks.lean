import GivenNames.Proofs.Source.Numbers

/-!
The checks of a row.

What can be read of a row is an integer or a text for each column, or nothing (`Reading`). Eight
checks are made of it, and one order of them holds for every layout and format. Main statements: a
row whose reading is that of a registration gives this registration (`registration_of_reading`); a
row is refused with a fault of the first check in that order that fails
(`refusedBy_registration`); and what fails none is the reading of a registration
(`Reading.exists_of_failing?_eq_none`), so rows are all good or there is a first that is not
(`Reading.all_or_first_failing`).
-/

namespace GivenNames

/-! ### Checks -/

/-- What is checked of a row. -/
inductive Check where
  | yearInteger
  | yearRange
  | genderInteger
  | countInteger
  | district
  | genderCode
  | name
  | countSign
  deriving DecidableEq, Repr

/-- The checks in the order in which they are made. -/
def Check.order : List Check :=
  [.yearInteger, .yearRange, .genderInteger, .countInteger, .district, .genderCode, .name,
    .countSign]

/-- The check that a fault says has failed. -/
def RowFault.check : RowFault → Check
  | .cell .year _ => .yearInteger
  | .cell .district _ => .district
  | .cell .gender _ => .genderInteger
  | .cell .name _ => .name
  | .cell .count _ => .countInteger
  | .value (.yearOutOfRange _ _) => .yearRange
  | .value (.genderOutOfRange _ _) => .genderCode
  | .value (.unknownGender _) => .genderCode
  | .value (.negativeCount _ _) => .countSign

/-- What can be read of a row: the integer or the text of a column, if its cell holds one. -/
structure Reading where
  year : Option Int
  district : Option String
  gender : Option Int
  name : Option String
  count : Option Int
  deriving DecidableEq, Repr

namespace Reading

/-- Whether a check passes. Where there is no integer, only the check for one fails. -/
def passes (reading : Reading) : Check → Bool
  | .yearInteger => reading.year.isSome
  | .yearRange => reading.year.all fun n => -0x80000000 ≤ n ∧ n ≤ 0x7fffffff
  | .genderInteger => reading.gender.isSome
  | .countInteger => reading.count.isSome
  | .district => reading.district.isSome
  | .genderCode => reading.gender.all fun n => n = 1 ∨ n = 2
  | .name => reading.name.isSome
  | .countSign => reading.count.all fun n => 0 ≤ n

/-- The first check that fails. -/
def failing? (reading : Reading) : Option Check :=
  Check.order.find? fun check => !reading.passes check

/-- What is read of a row that holds a registration. -/
def of (r : Registration) : Reading :=
  ⟨some r.year.toInt, some r.district, some r.gender.code.toNat, some r.name, some r.count.toNat⟩

end Reading

namespace RowCells

/-- What is read of the cells of a row, whatever the cause where there is nothing. -/
def reading (row : RowCells) : Reading where
  year := (row.integer .year).toOption
  district := (row.text .district).toOption
  gender := (row.integer .gender).toOption
  name := (row.text .name).toOption
  count := (row.integer .count).toOption

/-! ### Values -/

theorem yearOf_toInt (year : Int32) : yearOf year.toInt = .ok year := by
  have least : ¬year.toInt < -0x80000000 := Int.not_lt.mpr year.le_toInt
  have greatest : ¬0x7fffffff < year.toInt := by
    have := year.toInt_lt
    omega
  simp [yearOf, Integer.toInt32, Integer.inRange, least, greatest, Except.map]

theorem yearOf_beyond {n : Int} (beyond : ¬(-0x80000000 ≤ n ∧ n ≤ 0x7fffffff)) :
    ∃ reason, yearOf n = .error (.value (.yearOutOfRange n reason)) := by
  by_cases small : n < -0x80000000
  · exact ⟨.tooSmall, by
      simp [yearOf, Integer.toInt32, Integer.inRange, small, Except.map]⟩
  · have large : 0x7fffffff < n := by omega
    exact ⟨.tooLarge, by
      simp [yearOf, Integer.toInt32, Integer.inRange, small, large, Except.map]⟩

theorem genderOf_code (g : Gender) : genderOf g.code.toNat = .ok g := by
  cases g <;> rfl

theorem countOf_toNat (count : UInt64) : countOf count.toNat = .ok count := by
  have least : ¬(count.toNat : Int) < 0 := by omega
  have greatest : ¬0xffffffffffffffff < (count.toNat : Int) := by
    have := count.toNat_lt
    omega
  simp [countOf, Integer.toUInt64, Integer.inRange, least, greatest, Except.map]

theorem countOf_negative {n : Int} (negative : n < 0) :
    countOf n = .error (.value (.negativeCount n .tooSmall)) := by
  simp [countOf, Integer.toUInt64, Integer.inRange, negative, Except.map]

theorem genderOf_unknown {n : Int} (unknown : ¬(n = 1 ∨ n = 2)) :
    ∃ fault, genderOf n = .error fault ∧ fault.check = .genderCode := by
  unfold genderOf
  cases code : Integer.toUInt8 n with
  | error reason => exact ⟨_, rfl, rfl⟩
  | ok k =>
      have value : (k.toNat : Int) = n := by
        obtain ⟨m, inside, rfl⟩ := map_eq_ok_iff.mp code
        obtain ⟨rfl, least, greatest⟩ := Integer.inRange_eq_ok_iff.mp inside
        simp
        omega
      have none : Gender.ofCode? k = none := by
        unfold Gender.ofCode?
        split
        · exact absurd (.inl value.symm) unknown
        · exact absurd (.inr value.symm) unknown
        · rfl
      simp only [none]
      exact ⟨_, rfl, rfl⟩

/-! ### Rows -/

theorem registration_of_reading {row : RowCells} {r : Registration} (read : row.reading = .of r) :
    row.registration = .ok r := by
  simp only [reading, Reading.of, Reading.mk.injEq, toOption_eq_some_iff] at read
  obtain ⟨year, district, gender, name, count⟩ := read
  simp [registration, number, string, year, district, gender, name, count, yearOf_toInt,
    genderOf_code, countOf_toNat, bind, Except.bind, pure, Except.pure]

/-- A step is refused by a check, or gives a result where there is none. -/
def RefusedBy {α : Type} (step : Except RowFault α) : Option Check → Prop
  | none => ∃ x, step = .ok x
  | some check => ∃ fault, step = .error fault ∧ fault.check = check

/-- A step that one check decides, and then others: the first check that fails refuses them all. -/
theorem RefusedBy.bind {α β : Type} {step : Except RowFault α} {next : α → Except RowFault β}
    {passes : Check → Bool} {check : Check} {checks : List Check}
    (first : RefusedBy step (if passes check then none else some check))
    (others : ∀ x, step = .ok x → RefusedBy (next x) (checks.find? fun c => !passes c)) :
    RefusedBy (step >>= next) ((check :: checks).find? fun c => !passes c) := by
  rw [List.find?_cons]
  cases result : passes check with
  | true =>
      rw [result] at first
      obtain ⟨x, rfl⟩ := first
      exact others x rfl
  | false =>
      rw [result] at first
      obtain ⟨fault, rfl, about⟩ := first
      exact ⟨fault, rfl, about⟩

theorem refusedBy_number (row : RowCells) (c : Column) (fault : CellFault) :
    RefusedBy (row.number c)
      (if (row.integer c).toOption.isSome then none else some (RowFault.cell c fault).check) := by
  unfold number
  cases row.integer c with
  | ok n => exact ⟨n, rfl⟩
  | error cause => exact ⟨.cell c cause, rfl, by cases c <;> rfl⟩

theorem refusedBy_string (row : RowCells) (c : Column) (fault : CellFault) :
    RefusedBy (row.string c)
      (if (row.text c).toOption.isSome then none else some (RowFault.cell c fault).check) := by
  unfold string
  cases row.text c with
  | ok s => exact ⟨s, rfl⟩
  | error cause => exact ⟨.cell c cause, rfl, by cases c <;> rfl⟩

theorem refusedBy_yearOf (n : Int) :
    RefusedBy (yearOf n)
      (if decide (-0x80000000 ≤ n ∧ n ≤ 0x7fffffff) then none else some .yearRange) := by
  by_cases inside : -0x80000000 ≤ n ∧ n ≤ 0x7fffffff
  · have value : (Int32.ofInt n).toInt = n := Int32.toInt_ofInt_of_le inside.1 (by omega)
    have year := yearOf_toInt (Int32.ofInt n)
    rw [value] at year
    simpa [inside] using ⟨_, year⟩
  · obtain ⟨reason, year⟩ := yearOf_beyond inside
    simp only [inside, decide_false]
    exact ⟨_, year, rfl⟩

theorem refusedBy_genderOf (n : Int) :
    RefusedBy (genderOf n) (if decide (n = 1 ∨ n = 2) then none else some .genderCode) := by
  by_cases known : n = 1 ∨ n = 2
  · simp only [known, decide_true]
    rcases known with rfl | rfl
    · exact ⟨.male, rfl⟩
    · exact ⟨.female, rfl⟩
  · simp only [known, decide_false]
    exact genderOf_unknown known

theorem refusedBy_countOf {n : Int} (word : Integer.InInt64 n) :
    RefusedBy (countOf n) (if decide (0 ≤ n) then none else some .countSign) := by
  by_cases natural : 0 ≤ n
  · have count := countOf_toNat (UInt64.ofNat n.toNat)
    rw [Integer.toNat_ofNat_toNat natural word] at count
    simpa [natural] using ⟨_, count⟩
  · simp only [natural, decide_false]
    exact ⟨_, countOf_negative (Int.not_le.mp natural), rfl⟩

theorem integer_of_number {row : RowCells} {c : Column} {n : Int} (read : row.number c = .ok n) :
    row.integer c = .ok n :=
  mapError_eq_ok_iff.mp read

/-- A row is refused by the first check that fails, and by none if all of them pass. -/
theorem refusedBy_registration {row : RowCells}
    (words : ∀ n, row.integer .count = .ok n → Integer.InInt64 n) :
    RefusedBy row.registration row.reading.failing? := by
  refine .bind (refusedBy_number row .year .null) fun y year => ?_
  have range : RefusedBy (yearOf y)
      (if row.reading.passes .yearRange then none else some .yearRange) := by
    simpa [Reading.passes, reading, integer_of_number year, Except.toOption]
      using refusedBy_yearOf y
  refine .bind range fun year' _ => ?_
  refine .bind (refusedBy_number row .gender .null) fun g gender => ?_
  refine .bind (refusedBy_number row .count .null) fun c count => ?_
  refine .bind (refusedBy_string row .district .null) fun district _ => ?_
  have code : RefusedBy (genderOf g)
      (if row.reading.passes .genderCode then none else some .genderCode) := by
    simpa [Reading.passes, reading, integer_of_number gender, Except.toOption]
      using refusedBy_genderOf g
  refine .bind code fun gender' _ => ?_
  refine .bind (refusedBy_string row .name .null) fun name _ => ?_
  have sign : RefusedBy (countOf c)
      (if row.reading.passes .countSign then none else some .countSign) := by
    have read := integer_of_number count
    simpa [Reading.passes, reading, read, Except.toOption] using refusedBy_countOf (words c read)
  refine .bind sign fun count' _ => ?_
  exact ⟨_, rfl⟩

end RowCells

namespace Reading

/-- What fails no check, with a count of 64 bits, is read of a row that holds a registration. -/
theorem exists_of_failing?_eq_none {reading : Reading}
    (word : ∀ n ∈ reading.count, Integer.InInt64 n) (passes : reading.failing? = none) :
    ∃ r, reading = .of r := by
  have all : ∀ check ∈ Check.order, reading.passes check = true := by
    simpa [failing?] using passes
  obtain ⟨year, district, gender, name, count⟩ := reading
  simp only [Check.order, List.forall_mem_cons, Reading.passes, Option.isSome_iff_exists] at all
  obtain ⟨⟨y, rfl⟩, range, ⟨g, rfl⟩, ⟨c, rfl⟩, ⟨d, rfl⟩, code, ⟨n, rfl⟩, sign, _⟩ := all
  simp only [Option.all_some, decide_eq_true_eq] at range code sign
  have year : (Int32.ofInt y).toInt = y := Int32.toInt_ofInt_of_le range.1 (by omega)
  have count := Integer.toNat_ofNat_toNat sign (word c rfl)
  have gender : ∃ gender : Gender, (gender.code.toNat : Int) = g := by
    rcases code with rfl | rfl
    · exact ⟨.male, rfl⟩
    · exact ⟨.female, rfl⟩
  obtain ⟨gender, code⟩ := gender
  exact ⟨⟨Int32.ofInt y, d, gender, n, UInt64.ofNat c.toNat⟩, by
    simp only [of, year, code, count]⟩

/-- Readings are those of registrations, or there is a first one that fails a check. -/
theorem all_or_first_failing {readings : List Reading}
    (words : ∀ reading ∈ readings, ∀ n ∈ reading.count, Integer.InInt64 n) :
    (∃ rs : List Registration, readings = rs.map .of) ∨
      ∃ (before : List Registration) (bad : Reading) (after : List Reading) (check : Check),
        readings = before.map .of ++ bad :: after ∧ bad.failing? = some check := by
  induction readings with
  | nil => exact .inl ⟨[], rfl⟩
  | cons reading readings ih =>
      cases verdict : reading.failing? with
      | some check => exact .inr ⟨[], reading, readings, check, rfl, verdict⟩
      | none =>
          obtain ⟨r, rfl⟩ :=
            exists_of_failing?_eq_none (words reading List.mem_cons_self) verdict
          rcases ih fun other member => words other (List.mem_cons_of_mem _ member) with
            ⟨rs, rfl⟩ | ⟨before, bad, after, check, rfl, fails⟩
          · exact .inl ⟨r :: rs, rfl⟩
          · exact .inr ⟨r :: before, bad, after, check, rfl, fails⟩

end Reading

namespace RowCells

variable {row : RowCells} (words : ∀ n, row.integer .count = .ok n → Integer.InInt64 n)

include words

/-- A row gives a registration only where its reading is that of this registration. -/
theorem reading_of_registration {r : Registration} (taken : row.registration = .ok r) :
    row.reading = .of r := by
  have refused := refusedBy_registration words
  cases verdict : row.reading.failing? with
  | none =>
      obtain ⟨r', read⟩ := Reading.exists_of_failing?_eq_none
        (fun n member => words n (toOption_eq_some_iff.mp member)) verdict
      have taken' := registration_of_reading read
      rw [taken] at taken'
      cases taken'
      exact read
  | some check =>
      rw [verdict] at refused
      obtain ⟨fault, result, -⟩ := refused
      rw [taken] at result
      contradiction

/-- The fault that a row is refused for is one of the first check that fails. -/
theorem failing?_of_registration {fault : RowFault} (refused : row.registration = .error fault) :
    row.reading.failing? = some fault.check := by
  have verdict := refusedBy_registration words
  cases failing : row.reading.failing? with
  | none =>
      rw [failing] at verdict
      obtain ⟨r, result⟩ := verdict
      rw [refused] at result
      contradiction
  | some check =>
      rw [failing] at verdict
      obtain ⟨fault', result, rfl⟩ := verdict
      rw [refused] at result
      cases result
      rfl

end RowCells

end GivenNames
