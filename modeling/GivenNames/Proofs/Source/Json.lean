import GivenNames.Proofs.Counts
import GivenNames.Proofs.Json.Forms
import GivenNames.Source.Load

/-!
Registrations as a JSON source.

The form of a source and the printed form of a registration are two definitions; they meet member by
member. Main statements: the form takes the printed object of a registration as that registration
(`takes_registration`), so an array of printed registrations, however it is spaced, is read as these
registrations in order (`jsonText_written`), and a file that holds it is loaded as their registry
(`load_toJson`).
-/

namespace GivenNames.Load

open Json (Blank Form Plain Written)

variable {n : Nat}

/-! ### Members -/

theorem takes_int32 (k : Int32) : Form.int32.Takes n (.int k.toInt) k := by
  have least : -0x80000000 ≤ k.toInt := k.le_toInt
  have greatest : k.toInt ≤ 0x7fffffff := Int.le_of_lt_add_one k.toInt_lt
  have taken := (Form.takes_integer (n := n) least greatest .int32).map Int32.ofInt
  rw [Int32.ofInt_toInt] at taken
  exact taken

theorem takes_uint64 (k : UInt64) : Form.uint64.Takes n (.int k.toNat) k := by
  have below : (k.toNat : Int) ≤ 0xffffffffffffffff := by
    have := k.toNat_lt
    omega
  have taken := (Form.takes_integer (n := n) (Int.natCast_nonneg k.toNat) below .uint64).map
    fun k => k.toNat.toUInt64
  rw [Int.toNat_natCast, Nat.toUInt64_eq, UInt64.ofNat_toNat] at taken
  exact taken

theorem takes_uint8 (k : UInt8) : Form.uint8.Takes n (.int k.toNat) k := by
  have below : (k.toNat : Int) ≤ 255 := by
    have := k.toNat_lt
    omega
  have taken := (Form.takes_integer (n := n) (Int.natCast_nonneg k.toNat) below .uint8).map
    fun k => k.toNat.toUInt8
  rw [Int.toNat_natCast, Nat.toUInt8_eq, UInt8.ofNat_toNat] at taken
  exact taken

theorem takes_gender (g : Gender) : Gender.form.Takes n g.toJson g :=
  (takes_uint8 g.code).checked (by simp only [Gender.ofCode?_code])

/-- A district that is a string is taken as it stands, also where it spells a number. -/
theorem takes_district (s : String) :
    (District.form.map District.text).Takes n (.string s) s := by
  have label : District.form.Takes n (.string s) (.label s) :=
    (Form.takes_value (v := .string s)).checked rfl
  exact label.map District.text

/-! ### Registrations -/

theorem takes_registration (r : Registration) : registrationForm.Takes (n + 1) r.toJson r := by
  refine Form.takes_record ⟨r, ["Count", "Name", "Gender", "District", "Year"]⟩
    (.put rfl rfl (takes_int32 r.year) ?_) rfl
  refine .put rfl rfl (takes_district r.district) ?_
  refine .put rfl rfl (takes_gender r.gender) ?_
  refine .put rfl rfl Form.takes_string ?_
  exact .put rfl rfl (takes_uint64 r.count) .done

theorem plain_registration (r : Registration) : Plain (n + 1) r.toJson := by
  refine .object ?_
  simp only [List.forall_mem_cons]
  exact ⟨.int (isWord_int32 r.year), .string _, plain_gender _ _, .string _,
    .int (isWord_natCast r.count.toNat_lt), by simp⟩

/-! ### Sources -/

/-- A text in which registrations are written as an array of objects is read as them, in order. -/
theorem jsonText_written {rs : List Registration} {b cs b' : List Char} (blank : Blank b)
    (written : Written Json.maxNesting (.value (.array (rs.map Registration.toJson))) cs)
    (blank' : Blank b') : jsonText (String.ofList (b ++ cs ++ b')) = .ok rs := by
  have each : List.Forall₂ (registrationForm.Takes (Json.maxNesting - 1))
      (rs.map Registration.toJson) rs := by
    rw [List.forall₂_map_left_iff, List.forall₂_same]
    exact fun r _ => takes_registration r
  rw [jsonText, Form.parse_of_takes (Form.takes_list each) blank written blank']
  rfl

theorem jsonText_toJson (rs : List Registration) :
    jsonText (Json.array (rs.map Registration.toJson)).text = .ok rs := by
  have plain : Plain Json.maxNesting (.array (rs.map Registration.toJson)) := by
    refine .array fun v member => ?_
    obtain ⟨r, _, rfl⟩ := List.mem_map.mp member
    exact plain_registration r
  simpa [Json.text] using jsonText_written Json.blank_nil plain.written Json.blank_nil

/-- A JSON file that holds the printed array of registrations is loaded as their registry, which
holds them as they are. -/
theorem load_toJson {path : String} (extension : Path.extension path = "json")
    (rs : List Registration) :
    ∃ registry,
      load path (.bytes (Text.encode (Json.array (rs.map Registration.toJson)).text)) =
        .ok registry ∧ registry.registrations = rs ∧ registry = .ofList rs := by
  have format : Format.ofExtension? (Path.extension path) = some .json := by
    rw [extension]
    decide
  refine ⟨.ofList rs, ?_, rfl, rfl⟩
  simp only [load, format, registrations, json, Text.decode?_encode, jsonText_toJson]

/-- The ends of both word ranges, a district that spells a number, and characters that have to be
escaped. -/
def wireSample : List Registration := [
  ⟨-2147483648, "101", .female, "A\"\\\n\x01", 18446744073709551615⟩,
  ⟨2147483647, "", .male, "Zo\u00eb 😀", 0⟩]

theorem load_toJson_wireSample :
    Path.extension "names.json" = "json" ∧ ∃ registry,
      load "names.json"
          (.bytes (Text.encode (Json.array (wireSample.map Registration.toJson)).text)) =
        .ok registry ∧ registry.registrations = wireSample ∧ registry = .ofList wireSample := by
  have extension : Path.extension "names.json" = "json" := by decide
  exact ⟨extension, load_toJson extension wireSample⟩

end GivenNames.Load
