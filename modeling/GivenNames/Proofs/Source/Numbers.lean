import GivenNames.Proofs.Results
import GivenNames.Proofs.Text.Lines
import GivenNames.Source.Row

/-!
Integers in the cells of tables.

Whatever is read from a cell as an integer fits 64 bits (`RowCells.inInt64_of_fields`,
`RowCells.inInt64_of_cells`). An integer of 64 bits is read back from a field that holds its decimal
form (`RowCells.fieldInteger_text`) and from a cell that holds its value
(`RowCells.contentInteger_of_word`).
-/

namespace GivenNames

namespace Integer

/-! ### Decimal forms -/

theorem readDigits_le {limit : Nat} {beyond : IntegerError} {sum n : Nat} {cs : List Char}
    (fits : sum ≤ limit) (read : readDigits limit beyond sum cs = .ok n) : n ≤ limit := by
  induction cs generalizing sum with
  | nil => exact Except.ok.inj read ▸ fits
  | cons c cs ih =>
      unfold readDigits at read
      split at read
      · contradiction
      · split at read
        · rename_i within
          exact ih within read
        · contradiction

/-- Integers that are read from text fit 64 bits. -/
theorem inInt64_of_read {cs : List Char} {n : Int} (found : read cs = .ok n) : InInt64 n := by
  have signed {limit : Nat} {beyond : IntegerError} {digits : List Char} {f : Nat → Int}
      (found : (readDigits limit beyond 0 digits).map f = .ok n) : ∃ k ≤ limit, n = f k := by
    obtain ⟨k, value, rfl⟩ := map_eq_ok_iff.mp found
    exact ⟨k, readDigits_le (Nat.zero_le _) value, rfl⟩
  unfold read at found
  split at found
  · contradiction
  · contradiction
  · contradiction
  all_goals
    obtain ⟨k, within, rfl⟩ := signed found
    constructor <;> simp only [Int.ofNat_eq_natCast] <;> omega

/-- No character of a decimal form is blank. -/
theorem isBlank_of_mem_chars {n : Int} {c : Char} (member : c ∈ chars n) :
    Text.isBlank c = false := by
  unfold chars at member
  split at member
  · rcases List.mem_cons.mp member with rfl | member
    · decide
    · exact Text.isBlank_of_isDigit (natChars_digits _ c member)
  · exact Text.isBlank_of_isDigit (natChars_digits _ c member)

theorem trim_text (n : Int) : Text.trim (text n) = text n := by
  rw [Text.trim, text, String.toList_ofList,
    Text.trimChars_of_solid fun _ member => isBlank_of_mem_chars member]

/-- An integer of 64 bits is read back from its decimal form, trimmed or not. -/
theorem read_trim_text {n : Int} (word : InInt64 n) : read (Text.trim (text n)).toList = .ok n := by
  rw [trim_text, text, String.toList_ofList, read_chars word]

theorem text_injective {n m : Int} (word : InInt64 n) (word' : InInt64 m)
    (same : text n = text m) : n = m := by
  have chars : Integer.chars n = Integer.chars m := String.ofList_injective same
  have back := read_chars word
  rw [chars, read_chars word'] at back
  exact (Except.ok.inj back).symm

theorem natText_injective {m n : Nat} (same : natText m = natText n) : m = n := by
  have chars : natChars m = natChars n := String.ofList_injective same
  have value (k : Nat) : Nat.ofDigitChars 10 (natChars k) 0 = k := Nat.ofDigitChars_ten_toDigits
  rw [← value m, chars, value n]

/-! ### Words -/

theorem inInt64_toInt64 (n : Int64) : InInt64 n.toInt :=
  ⟨n.le_toInt, Int.le_of_lt_add_one n.toInt_lt⟩

theorem inInt64_toInt32 (n : Int32) : InInt64 n.toInt := by
  simpa using inInt64_toInt64 n.toInt64

theorem inInt64_toInt16 (n : Int16) : InInt64 n.toInt := by
  simpa using inInt64_toInt64 n.toInt64

theorem inInt64_toInt8 (n : Int8) : InInt64 n.toInt := by
  simpa using inInt64_toInt64 n.toInt64

theorem toNat_ofNat_toNat {n : Int} (natural : 0 ≤ n) (word : InInt64 n) :
    ((UInt64.ofNat n.toNat).toNat : Int) = n := by
  obtain ⟨_, greatest⟩ := word
  rw [UInt64.toNat_ofNat_of_lt' (by simp only [UInt64.size]; omega)]
  omega

theorem inRange_eq_ok_iff {lo hi n k : Int} : inRange lo hi n = .ok k ↔ k = n ∧ lo ≤ n ∧ n ≤ hi := by
  unfold inRange
  grind

end Integer

namespace RowCells

open Integer (InInt64)

variable {layout : Layout} {c : Column} {n : Int}

/-! ### Fields -/

theorem inInt64_of_fields {fields : List String}
    (found : (ofFields layout fields).integer c = .ok n) : InInt64 n := by
  simp only [ofFields, fieldInteger] at found
  split at found
  · contradiction
  · exact Integer.inInt64_of_read (mapError_eq_ok_iff.mp found)

theorem fieldInteger_text {fields : List String} {position : Nat}
    (here : fields[position]? = some (Integer.text n)) (word : InInt64 n) :
    fieldInteger fields position = .ok n := by
  simp only [fieldInteger, fieldText, here, Integer.read_trim_text word, mapError_ok]

/-! ### Contents of cells -/

theorem inInt64_of_cells {row : List Columnar.Cell}
    (found : (ofCells layout row).integer c = .ok n) : InInt64 n := by
  simp only [ofCells, contentAt] at found
  split at found
  · contradiction
  · unfold contentInteger at found
    split at found
    · contradiction
    · obtain ⟨rfl, range⟩ := Integer.inRange_eq_ok_iff.mp (mapError_eq_ok_iff.mp found)
      exact range
    · exact Integer.inInt64_of_read (mapError_eq_ok_iff.mp found)
    · contradiction

theorem contentInteger_of_word (word : InInt64 n) : contentInteger (.integer n) = .ok n :=
  mapError_eq_ok_iff.mpr (Integer.inRange_eq_ok_iff.mpr ⟨rfl, word⟩)

end RowCells

end GivenNames
