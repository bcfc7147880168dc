import GivenNames.Json.Form
import GivenNames.Text.Quoted

/-!
Registrations: how often a given name was registered in one year and district for one gender.

Several registrations may share year, district, gender and name; their counts add up. The name
together with the gender is the key that everything is gathered under: one spelling borne by both
genders is two names. Keys are ordered by spelling, code point by code point, and then by gender.
-/

namespace GivenNames

/-! ### Gender -/

/-- The gender of a registration. -/
inductive Gender where
  | male
  | female
  deriving DecidableEq, Repr

namespace Gender

/-- The published code of a gender. -/
def code : Gender → UInt8
  | .male => 1
  | .female => 2

/-- The gender of a published code. -/
def ofCode? : UInt8 → Option Gender
  | 1 => some .male
  | 2 => some .female
  | _ => none

theorem ofCode?_code (g : Gender) : ofCode? g.code = some g := by
  cases g <;> rfl

/-- What is said of a code that belongs to no gender. -/
def unknownMessage (code : Nat) : String :=
  "unknown gender code " ++ Integer.natText code ++ " (expected 1 or 2)"

instance : Ord Gender := ⟨fun a b => compare a.code b.code⟩

/-- The word for a gender in log lines. -/
def word : Gender → String
  | .male => "Male"
  | .female => "Female"

def toJson (g : Gender) : Json :=
  .int g.code.toNat

/-- A gender is its code. -/
def form : Json.Form Gender :=
  Json.Form.uint8.checked fun code =>
    match ofCode? code with
    | some g => .ok g
    | none => .error (unknownMessage code.toNat)

end Gender

/-! ### District -/

/-- A district as it is given: by its number or by its name. -/
inductive District where
  | code (n : Int64)
  | label (s : String)
  deriving DecidableEq, Repr

namespace District

/-- The text that a district is known by: numbers in decimal form. -/
def text : District → String
  | .code n => Integer.text n.toInt
  | .label s => s

/-- A district is an integer of 64 bits or a string. -/
def form : Json.Form District :=
  Json.Form.value.checked fun value =>
    match value with
    | .string s => .ok (.label s)
    | .int n =>
      if Integer.InInt64 n then .ok (.code (Int64.ofInt n))
      else .error "data did not match any variant of untagged enum DistrictValue"
    | _ => .error "data did not match any variant of untagged enum DistrictValue"

end District

/-! ### Keys -/

/-- A spelling and a gender. -/
structure NameKey where
  name : String
  gender : Gender
  deriving DecidableEq, Repr

instance : Ord NameKey :=
  ⟨fun a b => (compare a.name b.name).then (compare a.gender b.gender)⟩

/-- Two keys as one, ordered by the first and then by the second. -/
structure Compound (A B : Type) where
  first : A
  second : B
  deriving DecidableEq, Repr

instance {A B : Type} [Ord A] [Ord B] : Ord (Compound A B) :=
  ⟨fun a b => (compare a.first b.first).then (compare a.second b.second)⟩

/-! ### Registration -/

/-- One row of the table. -/
structure Registration where
  year : Int32
  district : String
  gender : Gender
  name : String
  count : UInt64
  deriving DecidableEq, Repr

namespace Registration

/-- The key of a registration. -/
def key (r : Registration) : NameKey :=
  ⟨r.name, r.gender⟩

/-- The count as a number. -/
def weight (r : Registration) : Nat :=
  r.count.toNat

/-- A registration as an object, its members in the order of the columns. -/
def toJson (r : Registration) : Json :=
  .object [
    ("Year", .int r.year.toInt),
    ("District", .string r.district),
    ("Gender", r.gender.toJson),
    ("Name", .string r.name),
    ("Count", .int r.count.toNat)]

/-- A registration as log lines show it. -/
def logText (r : Registration) : String :=
  "Record \x7b year: " ++ Integer.text r.year.toInt ++ ", district: " ++ Text.quoted r.district
    ++ ", gender: " ++ r.gender.word ++ ", name: " ++ Text.quoted r.name ++ ", count: "
    ++ Integer.natText r.count.toNat ++ " \x7d"

end Registration

end GivenNames
