import GivenNames.Event
import GivenNames.View

/-!
Requests: the query functions, their arguments, and the answers.

A function is called by name with a list of arguments in a fixed order. Trailing arguments may be
left out, and null stands for an argument that is not given. A call is refused for the first fault
in a fixed order: the text of the arguments, the name of the function, the shape and length of the
list, then the arguments from left to right. `Request.arguments` writes a request the way
`Request.decode` reads it.
-/

namespace GivenNames

/-! ### Functions and arguments -/

/-- The query functions. -/
inductive Function where
  | nameCount
  | nameYearCount
  | nameRegionRarity
  | nameDistrictCount
  deriving DecidableEq, Repr

/-- The arguments of the query functions. -/
inductive Argument where
  | name
  | years
  | district
  | popularity
  | spread
  deriving DecidableEq, Repr

namespace Function

def all : List Function :=
  [.nameCount, .nameYearCount, .nameRegionRarity, .nameDistrictCount]

/-- The name that a function is called by. -/
def name : Function → String
  | .nameCount => "name_count"
  | .nameYearCount => "name_year_count"
  | .nameRegionRarity => "name_region_rarity"
  | .nameDistrictCount => "name_district_count"

/-- The function of a name. -/
def ofName? (name : String) : Option Function :=
  all.find? fun f => f.name == name

/-- The arguments of a function, in order. -/
def parameters : Function → List Argument
  | .nameCount => [.years, .district, .popularity, .spread]
  | .nameYearCount => [.name, .years, .district]
  | .nameRegionRarity => [.years, .district, .popularity, .spread]
  | .nameDistrictCount => [.name, .years]

end Function

/-- The word for an argument in messages. -/
def Argument.word : Argument → String
  | .name => "name"
  | .years => "years"
  | .district => "district"
  | .popularity => "maxes"
  | .spread => "district_counts"

/-- Why a call has no answer. What is malformed is the text of the arguments or, without a place in
any text, the data of the answer. -/
inductive CallError where
  | unknownFunction (name : String)
  | malformed (fault : Json.Fault)
  | notAnArray (function : Function)
  | tooManyArguments (function : Function) (got : Nat)
  | missingArgument (function : Function) (argument : Argument)
  | invalidArgument (function : Function) (argument : Argument) (cause : Json.Cause)
  deriving DecidableEq, Repr

namespace CallError

def message : CallError → String
  | .unknownFunction name => "unknown query function " ++ Text.inApostrophes name
  | .malformed fault => "malformed JSON: " ++ fault.message
  | .notAnArray function =>
    Text.inApostrophes function.name ++ " expects a JSON array of arguments"
  | .tooManyArguments function got =>
    Text.inApostrophes function.name ++ " takes at most "
      ++ Integer.natText function.parameters.length ++ " arguments, got " ++ Integer.natText got
  | .missingArgument function argument =>
    Text.inApostrophes function.name ++ " is missing required argument "
      ++ Text.inApostrophes argument.word
  | .invalidArgument function argument cause =>
    Text.inApostrophes function.name ++ " argument " ++ Text.inApostrophes argument.word
      ++ " is invalid: " ++ cause.message

end CallError

/-! ### Requests -/

/-- A call with its arguments taken. -/
inductive Request where
  | table (filters : Filters)
  | trend (name : String) (years : Option YearBounds) (district : Option String)
  | scatter (filters : Filters)
  | map (name : String) (years : Option YearBounds)
  deriving DecidableEq, Repr

namespace Request

/-- The function that a request calls. -/
def function : Request → Function
  | .table _ => .nameCount
  | .trend .. => .nameYearCount
  | .scatter _ => .nameRegionRarity
  | .map .. => .nameDistrictCount

/-- Takes the argument at a position, if it is given. -/
def optional {α : Type} (function : Function) (args : List Json) (position : Nat)
    (argument : Argument) (form : Json.Form α) : Except CallError (Option α) :=
  match args[position]? with
  | none => .ok none
  | some .null => .ok none
  | some value =>
    match form.ofValue value with
    | .ok x => .ok (some x)
    | .error cause => .error (.invalidArgument function argument cause)

/-- Takes the argument at a position, which must be given. -/
def required {α : Type} (function : Function) (args : List Json) (position : Nat)
    (argument : Argument) (form : Json.Form α) : Except CallError α :=
  match optional function args position argument form with
  | .error e => .error e
  | .ok none => .error (.missingArgument function argument)
  | .ok (some x) => .ok x

/-- The form of a district argument. -/
def districtForm : Json.Form String :=
  District.form.map District.text

/-- Takes the four filters. -/
def filters (function : Function) (args : List Json) : Except CallError Filters := do
  let years ← optional function args 0 .years YearBounds.form
  let district ← optional function args 1 .district districtForm
  let popularity ← optional function args 2 .popularity PopularityBounds.form
  let spread ← optional function args 3 .spread SpreadBounds.form
  return ⟨years, district, popularity, spread⟩

/-- Takes the arguments of a function. -/
def ofArguments (function : Function) (args : List Json) : Except CallError Request :=
  if function.parameters.length < args.length then
    .error (.tooManyArguments function args.length)
  else
    match function with
    | .nameCount => (filters function args).map .table
    | .nameYearCount => do
      let name ← required function args 0 .name Json.Form.string
      let years ← optional function args 1 .years YearBounds.form
      let district ← optional function args 2 .district districtForm
      return .trend name years district
    | .nameRegionRarity => (filters function args).map .scatter
    | .nameDistrictCount => do
      let name ← required function args 0 .name Json.Form.string
      let years ← optional function args 1 .years YearBounds.form
      return .map name years

/-- Takes a call of a name with a list of arguments. -/
def decode (name : String) (args : List Json) : Except CallError Request :=
  match Function.ofName? name with
  | none => .error (.unknownFunction name)
  | some function => ofArguments function args

/-- Takes a call whose arguments are a value: an array, or null for no arguments. -/
def ofValue (name : String) (args : Json) : Except CallError Request :=
  match Function.ofName? name with
  | none => .error (.unknownFunction name)
  | some function =>
    match args with
    | .array args => ofArguments function args
    | .null => ofArguments function []
    | _ => .error (.notAnArray function)

/-- Takes a call whose arguments are a text. -/
def ofText (name : String) (text : String) : Except CallError Request :=
  match Json.parse text with
  | .error fault => .error (.malformed fault)
  | .ok args => ofValue name args

/-- A filter as an argument. -/
def argument {α : Type} (toJson : α → Json) : Option α → Json
  | some x => toJson x
  | none => .null

/-- The filters as arguments. -/
def filterArguments (f : Filters) : List Json :=
  [argument YearBounds.toJson f.years, .ofString? f.district,
    argument PopularityBounds.toJson f.popularity, argument SpreadBounds.toJson f.spread]

/-- The arguments of a request, all of them, absent ones as null. -/
def arguments : Request → List Json
  | .table f => filterArguments f
  | .trend name years district =>
    [.string name, argument YearBounds.toJson years, .ofString? district]
  | .scatter f => filterArguments f
  | .map name years => [.string name, argument YearBounds.toJson years]

end Request

/-! ### Answers -/

/-- The answer to a request. -/
inductive Answer where
  | table (rows : List RankedName)
  | trend (trend : YearTrend)
  | scatter (points : List RarityPoint)
  | map (map : DistrictMap)
  deriving DecidableEq, Repr

namespace Answer

/-- An answer as data to be written. -/
def datum : Answer → Json.Datum
  | .table rows => .list (rows.map RankedName.datum)
  | .trend t => t.datum
  | .scatter points => .list (points.map RarityPoint.datum)
  | .map m => m.datum

/-- The value that an answer is written as. -/
def toJson (answer : Answer) : Except Json.Cause Json :=
  answer.datum.toJson

end Answer

namespace Request

/-- The answer to a request, and what is reported on the way. Counts are added as unsigned words of
64 bits. -/
def run (registry : Registry) : Request → Answer × List Event
  | .table filters =>
    let candidates := View.candidatesWith View.wrappingAdd registry filters
    (.table (View.cut candidates), [.tableCandidates candidates.length View.tableSize])
  | .trend name years district =>
    (.trend (View.trendWith View.wrappingAdd registry name years district), [])
  | .scatter filters =>
    let points := View.scatterWith View.wrappingAdd registry filters
    (.scatter points, [.scatterPoints points.length])
  | .map name years => (.map (View.mapWith View.wrappingAdd registry name years), [])

/-- The answer to a request. -/
def answer (registry : Registry) (request : Request) : Answer :=
  (request.run registry).1

end Request

/-- Takes a call, runs it, and writes the answer, if it can be written; also what is reported on the
way. -/
def callWithEvents (registry : Registry) (name text : String) :
    Except CallError String × List Event :=
  match Request.ofText name text with
  | .error e => (.error e, [])
  | .ok request =>
    let (answer, events) := request.run registry
    match answer.toJson with
    | .error cause => (.error (.malformed ⟨cause, none⟩), events)
    | .ok value => (.ok value.text, events)

/-- Takes a call, runs it, and writes the answer. -/
def call (registry : Registry) (name text : String) : Except CallError String :=
  (callWithEvents registry name text).1

end GivenNames
