import GivenNames.Proofs.Requests
import GivenNames.Proofs.Source.GivenRows

/-!
Districts by number and by text.

A district that is given by a number is known by the decimal text of it, in sources as in requests,
and different numbers have different texts (`District.text_code_inj`). A request whose district is
given in any way is the request without a district, narrowed to the text of this district
(`Request.ofArguments_set`); so nothing else in the arguments is judged differently. Main statement:
a row whose district a source gives by a number is kept for a request whose district is given by a
number exactly if the numbers are equal (`Request.keeps_iff_of_stored`).
-/

namespace GivenNames

/-! ### Numbers of districts -/

namespace District

/-- Different numbers have different texts. -/
theorem text_code_inj {n m : Int64} : (code n).text = (code m).text ↔ n = m := by
  constructor
  · intro same
    exact Int64.toInt_inj.mp (Integer.text_injective (Integer.inInt64_toInt64 n)
      (Integer.inInt64_toInt64 m) same)
  · rintro rfl
    rfl

theorem InJson.ofValue {d : District} {v : Json} (given : d.InJson v) :
    Request.districtForm.ofValue v = .ok d.text := by
  cases given with
  | number n =>
      simp only [Request.districtForm, Json.Form.map, form, Json.Form.checked, Json.Form.value,
        if_pos (Integer.inInt64_toInt64 n), mapError_ok, Except.map, Int64.ofInt_toInt]
  | text d => rfl

theorem InJson.ne_null {d : District} {v : Json} (given : d.InJson v) : v ≠ .null := by
  rintro rfl
  cases given

theorem InJson.sorted {d : District} {v : Json} (given : d.InJson v) : v.sorted = v := by
  cases given <;> rfl

end District

/-- A row whose district is given by a number is kept for the text of this number only. -/
theorem GivenRow.mem_district_iff {rows : List GivenRow} {row : GivenRow} (member : row ∈ rows)
    {n m : Int64} (coded : row.district = .code n) :
    row.registration ∈
        Stage.district (some (District.code m).text) (rows.map GivenRow.registration) ↔ n = m := by
  have here : row.registration ∈ rows.map GivenRow.registration := List.mem_map_of_mem member
  have known : row.registration.district = (District.code n).text := by rw [← coded]; rfl
  rw [Stage.district, List.mem_filter, beq_iff_eq, known, District.text_code_inj]
  exact and_iff_right here

namespace Request

/-! ### The district of a request -/

/-- The district that a request is narrowed to. -/
def district? : Request → Option String
  | .table f => f.district
  | .trend _ _ district => district
  | .scatter f => f.district
  | .map _ _ => none

/-- A request narrowed to a district, where its function takes one. -/
def inDistrict (d : String) : Request → Request
  | .table f => .table { f with district := some d }
  | .trend name years _ => .trend name years (some d)
  | .scatter f => .scatter { f with district := some d }
  | .map name years => .map name years

/-- No function takes an argument at two places. -/
theorem place_of_takes {f : Function} {a : Argument} {place place' : Nat}
    (takes : f.parameters[place]? = some a) (takes' : f.parameters[place']? = some a) :
    place = place' := by
  have distinct : f.parameters.Nodup := by cases f <;> decide
  obtain ⟨within, here⟩ := List.getElem?_eq_some_iff.mp takes
  obtain ⟨within', here'⟩ := List.getElem?_eq_some_iff.mp takes'
  exact (distinct.getElem_inj_iff).mp (here.trans here'.symm)

section Arguments

variable {f : Function} {args : List Json} {place : Nat} {d : District} {v : Json}

theorem optional_set_other {α : Type} {position : Nat} (other : position ≠ place) (a : Argument)
    (form : Json.Form α) (w : Json) :
    optional f (args.set place w) position a form = optional f args position a form := by
  rw [optional, optional, List.getElem?_set_ne other.symm]

theorem required_set_other {α : Type} {position : Nat} (other : position ≠ place) (a : Argument)
    (form : Json.Form α) (w : Json) :
    required f (args.set place w) position a form = required f args position a form := by
  rw [required, required, optional_set_other other]

theorem optional_set_null {α : Type} (given : place < args.length) (a : Argument)
    (form : Json.Form α) : optional f (args.set place .null) place a form = .ok none := by
  rw [optional, List.getElem?_set_self given]

theorem optional_set_district (given : place < args.length) (gives : d.InJson v) :
    optional f (args.set place v) place .district districtForm = .ok (some d.text) := by
  have solid := gives.ne_null
  rw [optional, List.getElem?_set_self given]
  simp [gives.ofValue]

theorem filters_set (given : 1 < args.length) (gives : d.InJson v) :
    filters f (args.set 1 v) =
      (filters f (args.set 1 .null)).map fun x => { x with district := some d.text } := by
  have years (w : Json) := @optional_set_other f args 1 _ 0 (by decide) .years YearBounds.form w
  have popularity (w : Json) :=
    @optional_set_other f args 1 _ 2 (by decide) .popularity PopularityBounds.form w
  have spread (w : Json) := @optional_set_other f args 1 _ 3 (by decide) .spread SpreadBounds.form w
  simp only [filters, years, popularity, spread, optional_set_district given gives,
    optional_set_null given]
  cases optional f args 0 .years YearBounds.form <;>
    cases optional f args 2 .popularity PopularityBounds.form <;>
      cases optional f args 3 .spread SpreadBounds.form <;> rfl

/-- A request is taken with a district as it is without one, and then narrowed to it. -/
theorem ofArguments_set (takes : f.parameters[place]? = some .district)
    (given : place < args.length) (gives : d.InJson v) :
    ofArguments f (args.set place v) =
      (ofArguments f (args.set place .null)).map (inDistrict d.text) := by
  simp only [ofArguments, List.length_set]
  split
  · rfl
  · cases f with
    | nameCount =>
        obtain rfl : place = 1 := place_of_takes takes rfl
        simp only [filters_set given gives]
        cases filters .nameCount (args.set 1 .null) <;> rfl
    | nameYearCount =>
        obtain rfl : place = 2 := place_of_takes takes rfl
        have name (w : Json) :=
          @required_set_other .nameYearCount args 2 _ 0 (by decide) .name Json.Form.string w
        have years (w : Json) :=
          @optional_set_other .nameYearCount args 2 _ 1 (by decide) .years YearBounds.form w
        simp only [name, years, optional_set_district given gives, optional_set_null given]
        cases required .nameYearCount args 0 .name Json.Form.string <;>
          cases optional .nameYearCount args 1 .years YearBounds.form <;> rfl
    | nameRegionRarity =>
        obtain rfl : place = 1 := place_of_takes takes rfl
        simp only [filters_set given gives]
        cases filters .nameRegionRarity (args.set 1 .null) <;> rfl
    | nameDistrictCount =>
        have none : Argument.district ∉ Function.nameDistrictCount.parameters := by decide
        exact absurd (List.mem_of_getElem? takes) none

theorem function_of_ofArguments {q : Request} (taken : ofArguments f args = .ok q) :
    q.function = f := by
  unfold ofArguments at taken
  split at taken
  · contradiction
  · cases f with
    | nameCount =>
        obtain ⟨x, -, rfl⟩ := map_eq_ok_iff.mp taken
        rfl
    | nameYearCount =>
        simp only [bind_eq_ok_iff, pure, Except.pure, Except.ok.injEq] at taken
        obtain ⟨_, -, _, -, _, -, rfl⟩ := taken
        rfl
    | nameRegionRarity =>
        obtain ⟨x, -, rfl⟩ := map_eq_ok_iff.mp taken
        rfl
    | nameDistrictCount =>
        simp only [bind_eq_ok_iff, pure, Except.pure, Except.ok.injEq] at taken
        obtain ⟨_, -, _, -, rfl⟩ := taken
        rfl

/-- Where a function takes a district, the request that is taken is narrowed to it. -/
theorem district?_of_ofArguments (takes : f.parameters[place]? = some .district)
    (given : place < args.length) (gives : d.InJson v) {q : Request}
    (taken : ofArguments f (args.set place v) = .ok q) : q.district? = some d.text := by
  rw [ofArguments_set takes given gives] at taken
  obtain ⟨q', taken', rfl⟩ := map_eq_ok_iff.mp taken
  have called := function_of_ofArguments taken'
  cases q' with
  | map name years =>
      have none : Argument.district ∉ Function.nameDistrictCount.parameters := by decide
      rw [← called] at takes
      exact absurd (List.mem_of_getElem? takes) none
  | _ => rfl

end Arguments

/-! ### Calls -/

/-- A request is taken from the arguments of a function: as a list, as a value, or as a text. -/
inductive Taken (f : Function) (args : List Json) (q : Request) : Prop
  | list (decoded : decode f.name args = .ok q)
  | value (decoded : ofValue f.name (.array args) = .ok q)
  | text {text : String} (spells : Json.Spells text (.array args))
      (decoded : ofText f.name text = .ok q)

theorem decode_name (f : Function) (args : List Json) :
    decode f.name args = ofArguments f args := by
  rw [decode, ofName?_name]

theorem ofText_of_spells {text : String} {args : List Json}
    (spells : Json.Spells text (.array args)) (f : Function) :
    ofText f.name text = ofArguments f (args.map Json.sorted) := by
  obtain ⟨b, cs, b', blank, written, blank', rfl⟩ := spells
  rw [ofText_of_parse (Json.parse_of_written blank written blank'), Json.sorted, sortedItems_eq_map]
  simp only [ofValue, ofName?_name]

section Given

variable {f : Function} {place : Nat} {args : List Json} {d : District} {v v' : Json}
  (takes : f.parameters[place]? = some .district) (given : place < args.length)

theorem map_sorted_set (gives : d.InJson v) :
    (args.set place v).map Json.sorted = (args.map Json.sorted).set place v := by
  rw [List.map_set, gives.sorted]

include takes given

theorem Taken.district? (gives : d.InJson v) {q : Request} (taken : Taken f (args.set place v) q) :
    q.district? = some d.text := by
  cases taken with
  | list decoded =>
      rw [decode_name] at decoded
      exact district?_of_ofArguments takes given gives decoded
  | value decoded =>
      simp only [ofValue, ofName?_name] at decoded
      exact district?_of_ofArguments takes given gives decoded
  | text spells decoded =>
      rw [ofText_of_spells spells, map_sorted_set gives] at decoded
      exact district?_of_ofArguments takes (by rwa [List.length_map]) gives decoded

/-- Whichever way a district is given, the call is taken alike, or refused alike. -/
theorem ofText_eq_of_spells (gives : d.InJson v) (gives' : d.InJson v') {text text' : String}
    (spells : Json.Spells text (.array (args.set place v)))
    (spells' : Json.Spells text' (.array (args.set place v'))) :
    ofText f.name text = ofText f.name text' := by
  have given' : place < (args.map Json.sorted).length := by rwa [List.length_map]
  rw [ofText_of_spells spells, ofText_of_spells spells', map_sorted_set gives,
    map_sorted_set gives', ofArguments_set takes given' gives, ofArguments_set takes given' gives']

end Given

open District (InJson)

/-- Districts that are numbers mean the same wherever they are given. A source of rows is loaded. A
row whose district it gives by a number is kept for a request whose district is given by a number,
by this number itself or by its decimal text, exactly if the numbers are equal. The district being
given in the one way or in the other, the request that is taken is the same, or the fault; and there
is a request if there is one without the district. -/
theorem keeps_iff_of_stored {rows : List GivenRow} {path : String} {content : Content}
    (stored : GivenRow.Stored rows path content) {f : Function} {place : Nat}
    (takes : f.parameters[place]? = some .district) {args : List Json}
    (given : place < args.length) (m : Int64) :
    (∃ registry, load path content = .ok registry ∧
      registry.registrations = rows.map GivenRow.registration ∧
      ∀ v, (District.code m).InJson v → ∀ q, Taken f (args.set place v) q →
        ∀ row ∈ rows, ∀ n, row.district = .code n →
          (row.registration ∈ Stage.district q.district? registry.registrations ↔ n = m)) ∧
      decode f.name (args.set place (.int m.toInt)) =
        decode f.name (args.set place (.string (Integer.text m.toInt))) ∧
      (∀ text text', Json.Spells text (.array (args.set place (.int m.toInt))) →
        Json.Spells text' (.array (args.set place (.string (Integer.text m.toInt)))) →
          ofText f.name text = ofText f.name text') ∧
      ((∃ q, decode f.name (args.set place (.int m.toInt)) = .ok q) ↔
        ∃ q, decode f.name (args.set place .null) = .ok q) := by
  have number : InJson (.code m) (.int m.toInt) := .number m
  have decimal : InJson (.code m) (.string (Integer.text m.toInt)) := .text (.code m)
  refine ⟨⟨_, GivenRow.load_of_stored stored, rfl, ?_⟩, ?_, ?_, ?_⟩
  · intro v gives q taken row member n coded
    rw [taken.district? takes given gives]
    exact GivenRow.mem_district_iff member coded
  · rw [decode_name, decode_name, ofArguments_set takes given number,
      ofArguments_set takes given decimal]
  · intro text text' spells spells'
    exact ofText_eq_of_spells takes given number decimal spells spells'
  · simp only [decode_name, ofArguments_set takes given number, map_eq_ok_iff]
    constructor
    · rintro ⟨_, q, taken, -⟩
      exact ⟨q, taken⟩
    · rintro ⟨q, taken⟩
      exact ⟨_, q, taken, rfl⟩

/-- Two rows whose districts differ in their sign only, the one given by its number and the other by
its text. -/
def signSample : List GivenRow :=
  [⟨1990, .code (-7), .male, "Alex", 3⟩, ⟨2000, .code 7, .female, "Alex", 4⟩]

/-- These rows in cells of several types, with an empty batch between them. -/
def signTable : Columnar.Table where
  header := ["Year", "District", "Gender", "Name", "c"]
  batches := [
    [[⟨.int16, some 1990⟩, ⟨.int8, some (-7)⟩, ⟨.uint8, some 1⟩, ⟨.utf8, some "Alex"⟩,
      ⟨.uint64, some 3⟩]],
    [],
    [[⟨.int32, some 2000⟩, ⟨.largeUtf8, some "7"⟩, ⟨.utf8, some "2"⟩, ⟨.utf8, some "Alex"⟩,
      ⟨.int64, some 4⟩]]]

theorem stored_signSample : GivenRow.Stored signSample "names.pq" (.table signTable) := by
  refine .columnar (by decide) (rfl : Layout.ofHeaders signTable.header = .ok ⟨0, 1, 2, 3, 4⟩)
    (.cons ?_ (.cons ?_ .nil))
  · exact ⟨⟨_, rfl, .number (.int16 1990) (by decide)⟩, ⟨_, rfl, .number (.int8 (-7))⟩,
      ⟨_, rfl, .number (.uint8 1) (by decide)⟩, ⟨_, rfl, .text (.utf8 "Alex")⟩,
      ⟨_, rfl, .number (.uint64 3) (by decide)⟩⟩
  · exact ⟨⟨_, rfl, .number (.int32 2000) (by decide)⟩, ⟨_, rfl, .text (.largeUtf8 "7")⟩,
      ⟨_, rfl, .text (.utf8 "2") rfl⟩, ⟨_, rfl, .text (.utf8 "Alex")⟩,
      ⟨_, rfl, .number (.int64 4) (by decide)⟩⟩

theorem keeps_iff_of_stored_signSample :
    ∃ registry, load "names.pq" (.table signTable) = .ok registry ∧
      ⟨1990, "-7", .male, "Alex", 3⟩ ∈ Stage.district (some "-7") registry.registrations ∧
      ⟨2000, "7", .female, "Alex", 4⟩ ∉ Stage.district (some "-7") registry.registrations ∧
      decode "name_year_count" [.string "Alex", .null, .int (-7)] =
        .ok (.trend "Alex" none (some "-7")) ∧
      decode "name_year_count" [.string "Alex", .null, .int (-7)] =
        decode "name_year_count" [.string "Alex", .null, .string "-7"] := by
  have taken : decode "name_year_count" [.string "Alex", .null, .int (-7)] =
      .ok (.trend "Alex" none (some "-7")) := rfl
  obtain ⟨⟨registry, loaded, -, kept⟩, same, -, -⟩ :=
    @keeps_iff_of_stored _ _ _ stored_signSample .nameYearCount 2 rfl
      [.string "Alex", .null, .null] (by decide) (-7)
  have asked := kept _ (.number (-7)) _ (.list taken)
  refine ⟨registry, loaded, ?_, ?_, taken, same⟩
  · exact (asked ⟨1990, .code (-7), .male, "Alex", 3⟩ (.head _) (-7) rfl).mpr rfl
  · intro here
    have equal := (asked ⟨2000, .code 7, .female, "Alex", 4⟩ (.tail _ (.head _)) 7 rfl).mp here
    exact absurd equal (by decide)

end Request

end GivenNames
