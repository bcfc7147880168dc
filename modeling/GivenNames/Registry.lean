import GivenNames.Registration

/-!
The registry: all registrations, in the order they were loaded, with the districts and the span of
years that occur. It is built once and never changes.
-/

namespace GivenNames

/-- The first and the last year. -/
structure YearSpan where
  first : Int32
  last : Int32
  deriving DecidableEq, Repr

namespace YearSpan

/-- The span that takes in one more year. -/
def extend (span : Option YearSpan) (year : Int32) : Option YearSpan :=
  match span with
  | none => some ⟨year, year⟩
  | some s =>
    some ⟨if year < s.first then year else s.first, if s.last < year then year else s.last⟩

/-- A span of years as log lines show it. -/
def logText : Option YearSpan → String
  | none => "None"
  | some s => "Some((" ++ Integer.text s.first.toInt ++ ", " ++ Integer.text s.last.toInt ++ "))"

end YearSpan

/-- The registrations and what is known of them as a whole. -/
structure Registry where
  registrations : List Registration
  districts : List String
  yearSpan : Option YearSpan
  deriving DecidableEq, Repr

namespace Registry

/-- The registry of the given registrations. -/
def ofList (registrations : List Registration) : Registry where
  registrations := registrations
  districts := (Tally.labels Registration.district registrations).keys
  yearSpan := registrations.foldl (fun span r => YearSpan.extend span r.year) none

/-- The number of registrations. -/
def size (registry : Registry) : Nat :=
  registry.registrations.length

/-- Whether there are no registrations. -/
def isEmpty (registry : Registry) : Bool :=
  registry.registrations.isEmpty

/-- The first `n` registrations, or all where there are fewer. -/
def head (registry : Registry) (n : Nat) : List Registration :=
  registry.registrations.take n

end Registry

end GivenNames
