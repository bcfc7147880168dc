import GivenNames.Proofs.Source.Checks

/-!
What typed cells say.

A cell holds a number if its type is one of the eight integer types, and a text if it is one of the
two text types; null cells and cells of other types hold neither. From this it is laid down which
integer and which text a cell says, and for what cause it says none. Main statements: a cell is read
as an integer exactly as it says (`Cell.contentInteger_eq_ok_iff`), likewise as a text
(`Cell.contentText_eq_ok_iff`), and where it is refused, it is for the cause laid down
(`Cell.refusesInteger_of_error`, `Cell.refusesText_of_error`).
-/

namespace GivenNames

/-- An integer lies outside a closed range, on the side that the error names. -/
inductive Integer.Beyond (lo hi n : Int) : IntegerError → Prop
  | below (small : n < lo) : Beyond lo hi n .tooSmall
  | above (least : lo ≤ n) (large : hi < n) : Beyond lo hi n .tooLarge

theorem Integer.inRange_eq_error_iff {lo hi n : Int} {reason : IntegerError} :
    inRange lo hi n = .error reason ↔ Beyond lo hi n reason := by
  unfold inRange
  constructor
  · intro outside
    split at outside
    · rename_i small
      cases outside
      exact .below small
    · split at outside
      · rename_i least large
        cases outside
        exact .above (Int.not_lt.mp least) large
      · contradiction
  · rintro (small | ⟨least, large⟩)
    · rw [if_pos small]
    · rw [if_neg (Int.not_lt.mpr least), if_pos large]

namespace Columnar.Cell

/-! ### What cells hold -/

/-- A cell of an integer type holds the number that is its value. -/
inductive HoldsNumber : Cell → Int → Prop
  | int8 (v : Int8) : HoldsNumber ⟨.int8, some v⟩ v.toInt
  | int16 (v : Int16) : HoldsNumber ⟨.int16, some v⟩ v.toInt
  | int32 (v : Int32) : HoldsNumber ⟨.int32, some v⟩ v.toInt
  | int64 (v : Int64) : HoldsNumber ⟨.int64, some v⟩ v.toInt
  | uint8 (v : UInt8) : HoldsNumber ⟨.uint8, some v⟩ v.toNat
  | uint16 (v : UInt16) : HoldsNumber ⟨.uint16, some v⟩ v.toNat
  | uint32 (v : UInt32) : HoldsNumber ⟨.uint32, some v⟩ v.toNat
  | uint64 (v : UInt64) : HoldsNumber ⟨.uint64, some v⟩ v.toNat

/-- A cell of a text type holds the text that is its value. -/
inductive HoldsText : Cell → String → Prop
  | utf8 (s : String) : HoldsText ⟨.utf8, some s⟩ s
  | largeUtf8 (s : String) : HoldsText ⟨.largeUtf8, some s⟩ s

/-- A cell says its number, where that fits 64 bits with a sign, or the integer that its text
spells, blanks around it aside. -/
inductive SaysInteger (cell : Cell) : Int → Prop
  | number {n : Int} (holds : cell.HoldsNumber n) (word : Integer.InInt64 n) : SaysInteger cell n
  | text {s : String} {n : Int} (holds : cell.HoldsText s)
      (spelled : Integer.read (Text.trim s).toList = .ok n) : SaysInteger cell n

/-- A cell says its text, as it stands, or the decimal form of its number. -/
inductive SaysText (cell : Cell) : String → Prop
  | text {s : String} (holds : cell.HoldsText s) : SaysText cell s
  | number {n : Int} (holds : cell.HoldsNumber n) (word : Integer.InInt64 n) :
      SaysText cell (Integer.text n)

/-- Why a cell says neither a number nor a text. A null cell does so for being null, whatever its
type is. -/
inductive Refuses : Cell → CellFault → Prop
  | null (type : ColumnType) : Refuses ⟨type, none⟩ .null
  | beyond {cell : Cell} {n : Int} {reason : IntegerError} (holds : cell.HoldsNumber n)
      (beyond : Integer.Beyond (-0x8000000000000000) 0x7fffffffffffffff n reason) :
      Refuses cell (.beyondInt64 n reason)
  | wrongType {type : ColumnType} {value : type.Value}
      (numberless : ∀ n, ¬ HoldsNumber ⟨type, some value⟩ n)
      (textless : ∀ s, ¬ HoldsText ⟨type, some value⟩ s) :
      Refuses ⟨type, some value⟩ (.wrongType type)

/-- Why a cell says no integer: besides, its text may spell none. -/
inductive RefusesInteger (cell : Cell) : CellFault → Prop
  | neither {fault : CellFault} (refuses : cell.Refuses fault) : RefusesInteger cell fault
  | notInteger {s : String} {reason : IntegerError} (holds : cell.HoldsText s)
      (spelled : Integer.read (Text.trim s).toList = .error reason) :
      RefusesInteger cell (.notInteger s reason)

/-! ### How cells are read -/

/-- The contents that a cell may be read as, by what it holds. -/
inductive ReadAs (cell : Cell) : Content → Prop
  | null (empty : cell = ⟨cell.type, none⟩) : ReadAs cell .null
  | number {n : Int} (holds : cell.HoldsNumber n) : ReadAs cell (.integer n)
  | text {s : String} (holds : cell.HoldsText s) : ReadAs cell (.text s)
  | other {type : ColumnType} {value : type.Value} (given : cell = ⟨type, some value⟩)
      (numberless : ∀ n, ¬ cell.HoldsNumber n) (textless : ∀ s, ¬ cell.HoldsText s) :
      ReadAs cell (.other type)

variable {cell : Cell} {n : Int} {s : String} {fault : CellFault}

theorem readAs_content (cell : Cell) : cell.ReadAs cell.content := by
  obtain ⟨type, value⟩ := cell
  cases value with
  | none => exact .null rfl
  | some v =>
      cases type with
      | int8 => exact .number (.int8 v)
      | int16 => exact .number (.int16 v)
      | int32 => exact .number (.int32 v)
      | int64 => exact .number (.int64 v)
      | uint8 => exact .number (.uint8 v)
      | uint16 => exact .number (.uint16 v)
      | uint32 => exact .number (.uint32 v)
      | uint64 => exact .number (.uint64 v)
      | utf8 => exact .text (.utf8 v)
      | largeUtf8 => exact .text (.largeUtf8 v)
      | _ => exact .other rfl (fun _ holds => by cases holds) (fun _ holds => by cases holds)

theorem content_of_holdsNumber (holds : cell.HoldsNumber n) : cell.content = .integer n := by
  cases holds <;> rfl

theorem content_of_holdsText (holds : cell.HoldsText s) : cell.content = .text s := by
  cases holds <;> rfl

open RowCells (contentInteger contentText)

/-- Cells without a text are refused as integers and as texts for the same causes. -/
theorem refuses_of_error (refused : contentInteger cell.content = .error fault)
    (textless : ∀ s, ¬ cell.HoldsText s) : cell.Refuses fault := by
  have held := cell.readAs_content
  generalize cell.content = content at refused held
  cases held with
  | null empty =>
      cases refused
      rw [empty]
      exact .null cell.type
  | number holds =>
      obtain ⟨reason, outside, rfl⟩ := mapError_eq_error_iff.mp refused
      exact .beyond holds (Integer.inRange_eq_error_iff.mp outside)
  | text holds => exact absurd holds (textless _)
  | other given numberless textless =>
      cases refused
      subst given
      exact .wrongType numberless textless

/-- A cell is read as an integer exactly as it says. -/
theorem contentInteger_eq_ok_iff : contentInteger cell.content = .ok n ↔ cell.SaysInteger n := by
  constructor
  · intro read
    have held := cell.readAs_content
    generalize cell.content = content at read held
    cases held with
    | null => contradiction
    | number holds =>
        obtain ⟨rfl, word⟩ := Integer.inRange_eq_ok_iff.mp (mapError_eq_ok_iff.mp read)
        exact .number holds word
    | text holds =>
        have spelled := mapError_eq_ok_iff.mp read
        refine .text holds ?_
        rwa [Text.trim, String.toList_ofList]
    | other => contradiction
  · rintro (⟨holds, word⟩ | ⟨holds, spelled⟩)
    · rw [content_of_holdsNumber holds]
      exact RowCells.contentInteger_of_word word
    · rw [Text.trim, String.toList_ofList] at spelled
      rw [content_of_holdsText holds]
      exact mapError_eq_ok_iff.mpr spelled

/-- A cell says one integer only. -/
theorem SaysInteger.unique {m : Int} (said : cell.SaysInteger n) (said' : cell.SaysInteger m) :
    n = m := by
  have read := contentInteger_eq_ok_iff.mpr said
  rw [contentInteger_eq_ok_iff.mpr said'] at read
  exact (Except.ok.inj read).symm

/-- A cell is refused as an integer for the cause laid down. -/
theorem refusesInteger_of_error (refused : contentInteger cell.content = .error fault) :
    cell.RefusesInteger fault := by
  by_cases text : ∃ s, cell.HoldsText s
  · obtain ⟨s, holds⟩ := text
    rw [content_of_holdsText holds] at refused
    obtain ⟨reason, spelled, rfl⟩ := mapError_eq_error_iff.mp refused
    refine .notInteger holds ?_
    rwa [Text.trim, String.toList_ofList]
  · exact .neither (refuses_of_error refused (not_exists.mp text))

/-- A cell without a text is read as its number in decimal form. -/
theorem contentText_of_textless (textless : ∀ s, ¬ cell.HoldsText s) :
    contentText cell.content = (contentInteger cell.content).map Integer.text := by
  have held := cell.readAs_content
  generalize cell.content = content at held ⊢
  cases held with
  | null => rfl
  | number => rfl
  | text holds => exact absurd holds (textless _)
  | other => rfl

/-- A cell is read as a text exactly as it says. -/
theorem contentText_eq_ok_iff : contentText cell.content = .ok s ↔ cell.SaysText s := by
  by_cases text : ∃ t, cell.HoldsText t
  · obtain ⟨t, holds⟩ := text
    have content := content_of_holdsText holds
    rw [content]
    constructor
    · rintro ⟨⟩
      exact .text holds
    · rintro (⟨same⟩ | ⟨number, word⟩)
      · rw [content_of_holdsText same] at content
        cases content
        rfl
      · rw [content_of_holdsNumber number] at content
        contradiction
  · have textless := not_exists.mp text
    rw [contentText_of_textless textless, map_eq_ok_iff]
    constructor
    · rintro ⟨n, read, rfl⟩
      cases contentInteger_eq_ok_iff.mp read with
      | number holds word => exact .number holds word
      | text holds => exact absurd holds (textless _)
    · rintro (⟨holds⟩ | ⟨holds, word⟩)
      · exact absurd holds (textless s)
      · exact ⟨_, contentInteger_eq_ok_iff.mpr (.number holds word), rfl⟩

/-- A cell is refused as a text for the cause laid down; a text never is. -/
theorem refusesText_of_error (refused : contentText cell.content = .error fault) :
    cell.Refuses fault := by
  by_cases text : ∃ s, cell.HoldsText s
  · obtain ⟨s, holds⟩ := text
    rw [content_of_holdsText holds] at refused
    contradiction
  · have textless := not_exists.mp text
    rw [contentText_of_textless textless, map_eq_error_iff] at refused
    exact refuses_of_error refused textless

end Columnar.Cell

end GivenNames
