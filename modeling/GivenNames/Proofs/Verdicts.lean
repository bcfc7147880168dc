import GivenNames.Proofs.Requests

/-!
What a call deserves.

A call is a name and a value with its arguments. `Deserves` says which calls are taken, as what, and
which are refused, for what: the grammar of each argument (`Argument.Reads`), and the order in which
the faults of a call that has several are looked for. Main statement: a call comes to exactly the
outcome that it deserves, and it is refused as malformed exactly where its text is no JSON, whatever
its name is (`fault_iff_deserves`).
-/

namespace GivenNames

open Json (Form)

/-! ### Arguments -/

/-- The values that an argument may be given by, each with what the argument then is, as requests
write it. -/
inductive Argument.Reads : Argument → Json → Json → Prop
  | name (s : String) : Reads .name (.string s) (.string s)
  | label (s : String) : Reads .district (.string s) (.string s)
  | code {n : Int} (word : Integer.InInt64 n) : Reads .district (.int n) (.string (Integer.text n))
  | years {v w : Json}
      (pair : Json.Pair "year_min" "year_max" (-0x80000000) 0x7fffffff v w) : Reads .years v w
  | popularity {v w : Json}
      (pair : Json.Pair "maxtotal" "maxperyear" (-0x8000000000000000) 0x7fffffffffffffff v w) :
      Reads .popularity v w
  | spread {v w : Json}
      (pair : Json.Pair "minDistricts" "maxDistricts" (-0x8000000000000000) 0x7fffffffffffffff
        v w) : Reads .spread v w

/-- An argument and the value in its place, and what the argument then is: the value reads as that,
or it is null, which leaves every argument absent but the name. -/
inductive Stands : Argument × Json → Json → Prop
  | absent {a : Argument} (optional : a ≠ .name) : Stands (a, .null) .null
  | given {a : Argument} {v w : Json} (reads : a.Reads v w) : Stands (a, v) w

/-- Why a call is refused, the cause of an invalid argument aside. -/
inductive CallFault where
  | unknownFunction (name : String)
  | malformed (fault : Json.Fault)
  | notAnArray (function : Function)
  | tooManyArguments (function : Function) (got : Nat)
  | missingArgument (function : Function) (argument : Argument)
  | invalidArgument (function : Function) (argument : Argument)
  deriving DecidableEq, Repr

def CallError.fault : CallError → CallFault
  | .unknownFunction name => .unknownFunction name
  | .malformed fault => .malformed fault
  | .notAnArray function => .notAnArray function
  | .tooManyArguments function got => .tooManyArguments function got
  | .missingArgument function argument => .missingArgument function argument
  | .invalidArgument function argument _ => .invalidArgument function argument

/-- What is wrong with an argument and the value in its place: the name is missing where that is
null, and every other value than null that the argument cannot be given by is invalid. -/
inductive Faulty (f : Function) : Argument × Json → CallFault → Prop
  | missing : Faulty f (.name, .null) (.missingArgument f .name)
  | invalid {a : Argument} {v : Json} (given : v ≠ .null) (other : ∀ w, ¬ a.Reads v w) :
      Faulty f (a, v) (.invalidArgument f a)

/-! ### Calls -/

namespace Function

/-- The number of arguments that a function takes at most. -/
def capacity : Function → Nat
  | .nameCount => 4
  | .nameYearCount => 3
  | .nameRegionRarity => 4
  | .nameDistrictCount => 2

/-- The arguments of a function in order, each with the item in its place, or null beyond the end
of the list. -/
def places (f : Function) (items : List Json) : List (Argument × Json) :=
  f.parameters.mapIdx fun i a => (a, items[i]?.getD .null)

theorem length_parameters (f : Function) : f.parameters.length = f.capacity := by
  cases f <;> rfl

end Function

/-- What a list of arguments that is short enough deserves: the request that the items in all places
stand for, or a refusal for the first place that is faulty. -/
inductive Settles (f : Function) (items : List Json) : Except CallFault Request → Prop
  | taken {q : Request} (called : q.function = f)
      (stand : List.Forall₂ Stands (f.places items) q.arguments) : Settles f items (.ok q)
  | refused {before after : List (Argument × Json)} {p : Argument × Json} {r : CallFault}
      (places : f.places items = before ++ p :: after) (stand : ∀ q ∈ before, ∃ w, Stands q w)
      (faulty : Faulty f p r) : Settles f items (.error r)

/-- The list of arguments that a value is: null is the empty one. -/
inductive Lists : Json → List Json → Prop
  | null : Lists .null []
  | array (items : List Json) : Lists (.array items) items

/-- What a call deserves. The name is looked at first, then the shape of the arguments, then their
number, then each of them in order. -/
inductive Deserves (name : String) (value : Json) : Except CallFault Request → Prop
  | unknownFunction (unknown : ∀ f : Function, f.name ≠ name) :
      Deserves name value (.error (.unknownFunction name))
  | notAnArray {f : Function} (known : f.name = name) (other : ∀ items, ¬ Lists value items) :
      Deserves name value (.error (.notAnArray f))
  | tooManyArguments {f : Function} {items : List Json} (known : f.name = name)
      (lists : Lists value items) (long : f.capacity < items.length) :
      Deserves name value (.error (.tooManyArguments f items.length))
  | settled {f : Function} {items : List Json} {outcome : Except CallFault Request}
      (known : f.name = name) (lists : Lists value items) (short : items.length ≤ f.capacity)
      (settles : Settles f items outcome) : Deserves name value outcome

/-! ### One argument -/

section Recognition

theorem recognizes_string : Form.string.Recognizes .string Argument.name.Reads := by
  intro v w
  constructor
  · rintro ⟨s⟩
    exact ⟨s, rfl, rfl⟩
  · rintro ⟨s, taken, rfl⟩
    cases v with
    | string s =>
        cases taken
        exact .name s
    | _ => cases taken

theorem District.ofValue_int {n : Int} (word : Integer.InInt64 n) :
    form.ofValue (.int n) = .ok (.code (Int64.ofInt n)) := by
  simp only [form, Form.checked, Form.value, if_pos word, mapError_ok]

theorem District.inInt64_of_ofValue {n : Int} {d : District}
    (taken : form.ofValue (.int n) = .ok d) : Integer.InInt64 n := by
  by_contra outside
  simp only [form, Form.checked, Form.value, if_neg outside, mapError_error, reduceCtorEq] at taken

theorem District.text_code {n : Int} (word : Integer.InInt64 n) :
    (code (Int64.ofInt n)).text = Integer.text n := by
  obtain ⟨least, greatest⟩ := word
  rw [text, Int64.toInt_ofInt_of_le (by omega) (by omega)]

theorem recognizes_district :
    Request.districtForm.Recognizes .string Argument.district.Reads := by
  intro v w
  constructor
  · intro reads
    cases reads with
    | label s => exact ⟨s, rfl, rfl⟩
    | @code n word =>
        refine ⟨Integer.text n, map_eq_ok_iff.mpr ⟨_, District.ofValue_int word, ?_⟩, rfl⟩
        exact District.text_code word
  · rintro ⟨s, taken, rfl⟩
    obtain ⟨d, given, rfl⟩ := map_eq_ok_iff.mp taken
    cases v with
    | string s =>
        cases given
        exact .label s
    | int n =>
        have word := District.inInt64_of_ofValue given
        rw [District.ofValue_int word] at given
        rw [← Except.ok.inj given, District.text_code word]
        exact .code word
    | _ => cases given

theorem YearBounds.recognizes : form.Recognizes toJson Argument.years.Reads := by
  have parts : Form.Parts (fun x b => { b with min := x }) (fun y b => { b with max := y })
      YearBounds.min YearBounds.max :=
    ⟨fun _ _ => rfl, fun _ _ => rfl, fun _ _ => rfl, fun _ _ => rfl⟩
  have pair : form.Recognizes toJson (Json.Pair "year_min" "year_max" (-0x80000000) 0x7fffffff) :=
    Form.recognizes_pair parts Form.recognizes_int32 rfl rfl (by decide)
  intro v w
  constructor
  · intro reads
    cases reads with
    | years given => exact (pair v w).mp given
  · intro taken
    exact .years ((pair v w).mpr taken)

theorem PopularityBounds.recognizes : form.Recognizes toJson Argument.popularity.Reads := by
  have parts : Form.Parts (fun x b => { b with total := x }) (fun y b => { b with perYear := y })
      PopularityBounds.total PopularityBounds.perYear :=
    ⟨fun _ _ => rfl, fun _ _ => rfl, fun _ _ => rfl, fun _ _ => rfl⟩
  have pair : form.Recognizes toJson (Json.Pair "maxtotal" "maxperyear" (-0x8000000000000000)
      0x7fffffffffffffff) :=
    Form.recognizes_pair parts Form.recognizes_int64 rfl rfl (by decide)
  intro v w
  constructor
  · intro reads
    cases reads with
    | popularity given => exact (pair v w).mp given
  · intro taken
    exact .popularity ((pair v w).mpr taken)

theorem SpreadBounds.recognizes : form.Recognizes toJson Argument.spread.Reads := by
  have parts : Form.Parts (fun x b => { b with min := x }) (fun y b => { b with max := y })
      SpreadBounds.min SpreadBounds.max :=
    ⟨fun _ _ => rfl, fun _ _ => rfl, fun _ _ => rfl, fun _ _ => rfl⟩
  have pair : form.Recognizes toJson (Json.Pair "minDistricts" "maxDistricts" (-0x8000000000000000)
      0x7fffffffffffffff) :=
    Form.recognizes_pair parts Form.recognizes_int64 rfl rfl (by decide)
  intro v w
  constructor
  · intro reads
    cases reads with
    | spread given => exact (pair v w).mp given
  · intro taken
    exact .spread ((pair v w).mpr taken)

/-- A value reads as one thing only. -/
theorem Argument.Reads.unique {a : Argument} {v w w' : Json} (reads : a.Reads v w)
    (reads' : a.Reads v w') : w = w' := by
  cases a with
  | name => exact recognizes_string.unique reads reads'
  | years => exact YearBounds.recognizes.unique reads reads'
  | district => exact recognizes_district.unique reads reads'
  | popularity => exact PopularityBounds.recognizes.unique reads reads'
  | spread => exact SpreadBounds.recognizes.unique reads reads'

theorem Argument.not_reads_null {a : Argument} {w : Json} : ¬ a.Reads .null w := by
  intro reads
  rcases reads with _ | _ | _ | ⟨⟨⟨⟩, _, _⟩⟩ | ⟨⟨⟨⟩, _, _⟩⟩ | ⟨⟨⟨⟩, _, _⟩⟩

end Recognition

/-! ### One place -/

section Places

variable {f : Function} {p : Argument × Json}

theorem rightUnique_stands : Relator.RightUnique Stands := by
  rintro ⟨a, v⟩ w w' stands stands'
  cases stands with
  | absent =>
      cases stands' with
      | absent => rfl
      | given reads => exact absurd reads Argument.not_reads_null
  | given reads =>
      cases stands' with
      | absent => exact absurd reads Argument.not_reads_null
      | given reads' => exact reads.unique reads'

theorem Faulty.not_stands {fault : CallFault} (faulty : Faulty f p fault) :
    ¬ ∃ w, Stands p w := by
  rintro ⟨w, stands⟩
  cases faulty with
  | missing =>
      cases stands with
      | absent optional => exact optional rfl
      | given reads => exact Argument.not_reads_null reads
  | invalid given other =>
      cases stands with
      | absent => exact given rfl
      | given reads => exact other w reads

theorem Faulty.unique {fault fault' : CallFault} (faulty : Faulty f p fault)
    (faulty' : Faulty f p fault') : fault = fault' := by
  cases faulty with
  | missing =>
      cases faulty' with
      | missing => rfl
      | invalid given => exact absurd rfl given
  | invalid given =>
      cases faulty' with
      | missing => exact absurd rfl given
      | invalid => rfl

/-- One place is taken as what it stands for, or refused for its fault. -/
inductive Settled {α : Type} (f : Function) (p : Argument × Json) (write : α → Json) :
    Except CallError α → Prop
  | taken {x : α} (stands : Stands p (write x)) : Settled f p write (.ok x)
  | refused {e : CallError} (faulty : Faulty f p e.fault) : Settled f p write (.error e)

variable {α : Type} {a : Argument} {form : Form α} {toJson : α → Json} {items : List Json} {i : Nat}

theorem optional_of_null (null : items[i]?.getD .null = .null) :
    Request.optional f items i a form = .ok none := by
  unfold Request.optional
  cases item : items[i]? with
  | none => rfl
  | some v =>
      rw [item, Option.getD_some] at null
      rw [null]

theorem optional_of_ne_null (given : items[i]?.getD .null ≠ .null) :
    Request.optional f items i a form =
      ((form.ofValue (items[i]?.getD .null)).mapError (.invalidArgument f a)).map some := by
  unfold Request.optional
  cases item : items[i]? with
  | none =>
      rw [item] at given
      exact absurd rfl given
  | some v =>
      rw [item, Option.getD_some] at given
      rw [Option.getD_some]
      cases taken : form.ofValue v <;> simp [taken, Except.map]

theorem required_of_ne_null (given : items[i]?.getD .null ≠ .null) :
    Request.required f items i a form =
      (form.ofValue (items[i]?.getD .null)).mapError (.invalidArgument f a) := by
  rw [Request.required, optional_of_ne_null given]
  cases form.ofValue (items[i]?.getD .null) <;> rfl

/-- A value that is given is taken as what the form of the argument recognizes. -/
theorem settled_ofValue {v : Json} (recognizes : form.Recognizes toJson a.Reads)
    (given : v ≠ .null) :
    Settled f (a, v) toJson ((form.ofValue v).mapError (.invalidArgument f a)) := by
  cases taken : form.ofValue v with
  | ok x => exact .taken (.given ((recognizes _ _).mpr ⟨x, taken, rfl⟩))
  | error cause => exact .refused (.invalid given fun _ => recognizes.not_of_error taken)

theorem Settled.some {step : Except CallError α} (settled : Settled f p toJson step) :
    Settled f p (Request.argument toJson) (step.map Option.some) := by
  cases settled with
  | taken stands => exact .taken stands
  | refused faulty => exact .refused faulty

/-- Any argument but the name may be left out. -/
theorem settled_optional (recognizes : form.Recognizes toJson a.Reads) (other : a ≠ .name) :
    Settled f (a, items[i]?.getD .null) (Request.argument toJson)
      (Request.optional f items i a form) := by
  by_cases null : items[i]?.getD .null = .null
  · rw [optional_of_null null, null]
    exact .taken (.absent other)
  · rw [optional_of_ne_null null]
    exact (settled_ofValue recognizes null).some

/-- The name is a string and must be given. -/
theorem settled_required :
    Settled f (.name, items[i]?.getD .null) .string
      (Request.required f items i .name Form.string) := by
  by_cases null : items[i]?.getD .null = .null
  · rw [Request.required, optional_of_null null, null]
    exact .refused .missing
  · rw [required_of_ne_null null]
    exact settled_ofValue recognizes_string null

end Places

/-! ### All places -/

section Run

variable {f : Function} {items : List Json}

/-- The first of a list to fail a test is the same however the list is split at it. -/
theorem eq_of_first {α : Type} {P : α → Prop} {before before' after after' : List α} {x x' : α}
    (same : before ++ x :: after = before' ++ x' :: after') (pass : ∀ y ∈ before, P y)
    (pass' : ∀ y ∈ before', P y) (fails : ¬ P x) (fails' : ¬ P x') : x = x' := by
  classical
  have first : (before ++ x :: after).find? (fun y => ¬ P y) = some x :=
    List.find?_eq_some_iff_append.mpr
      ⟨by simpa using fails, before, after, rfl, by simpa using pass⟩
  have first' : (before ++ x :: after).find? (fun y => ¬ P y) = some x' :=
    List.find?_eq_some_iff_append.mpr
      ⟨by simpa using fails', before', after', same, by simpa using pass'⟩
  rw [first] at first'
  exact Option.some.inj first'

theorem stand_of_forall₂ {places : List (Argument × Json)} {ws : List Json}
    (stand : List.Forall₂ Stands places ws) : ∀ q ∈ places, ∃ w, Stands q w := by
  induction stand with
  | nil => simp
  | @cons p w places ws here _ ih => exact List.forall_mem_cons.mpr ⟨⟨w, here⟩, ih⟩

/-- Requests of one function with the same arguments are the same. -/
theorem Request.eq_of_arguments {q q' : Request} (called : q.function = q'.function)
    (same : q.arguments = q'.arguments) : q = q' := by
  have taken := ofArguments_arguments q
  rw [called, same, ofArguments_arguments q'] at taken
  exact (Except.ok.inj taken).symm

theorem Faulty.not_stand {before after : List (Argument × Json)} {p : Argument × Json}
    {fault : CallFault} (faulty : Faulty f p fault) (places : f.places items = before ++ p :: after)
    (ws : List Json) : ¬ List.Forall₂ Stands (f.places items) ws := by
  intro stand
  have here : p ∈ f.places items := by simp [places]
  exact faulty.not_stands (stand_of_forall₂ stand p here)

/-- A list of arguments deserves one outcome only. -/
theorem Settles.unique {outcome outcome' : Except CallFault Request}
    (settles : Settles f items outcome) (settles' : Settles f items outcome') :
    outcome = outcome' := by
  cases settles with
  | taken called stand =>
      cases settles' with
      | taken called' stand' =>
          have same := rightUnique_stands.forall₂ stand stand'
          rw [Request.eq_of_arguments (called.trans called'.symm) same]
      | refused places _ faulty => exact absurd stand (faulty.not_stand places _)
  | refused places stands faulty =>
      cases settles' with
      | taken _ stand => exact absurd stand (faulty.not_stand places _)
      | refused places' stands' faulty' =>
          have same := eq_of_first (places.symm.trans places') stands stands' faulty.not_stands
            faulty'.not_stands
          subst same
          rw [faulty.unique faulty']

/-- Places are taken one after the other: where those before it stand, the next one decides, or
else what comes after it. -/
theorem settles_bind {α : Type} {write : α → Json} {step : Except CallError α}
    {next : α → Except CallError Request} {before after : List (Argument × Json)}
    {p : Argument × Json} {ws : List Json} (stand : List.Forall₂ Stands before ws)
    (places : f.places items = before ++ p :: after) (settled : Settled f p write step)
    (rest : ∀ x, Stands p (write x) → Settles f items ((next x).mapError CallError.fault)) :
    Settles f items ((step >>= next).mapError CallError.fault) := by
  cases settled with
  | taken stands => exact rest _ stands
  | refused faulty => exact .refused places (stand_of_forall₂ stand) faulty

/-- The four filters are taken in order, for a function that has no other arguments. -/
theorem settles_filters {make : Filters → Request} (called : ∀ x, (make x).function = f)
    (written : ∀ x, (make x).arguments = Request.filterArguments x)
    (places : f.places items = [(.years, items[0]?.getD .null), (.district, items[1]?.getD .null),
      (.popularity, items[2]?.getD .null), (.spread, items[3]?.getD .null)]) :
    Settles f items (((Request.filters f items).map make).mapError CallError.fault) := by
  have run : (Request.filters f items).map make = make <$> Request.filters f items := rfl
  rw [run, Request.filters]
  simp only [map_bind, map_pure]
  apply settles_bind .nil places (settled_optional YearBounds.recognizes (by decide))
  intro years isYears
  apply settles_bind (.cons isYears .nil) places (settled_optional recognizes_district (by decide))
  intro district isDistrict
  apply settles_bind (.cons isYears (.cons isDistrict .nil)) places
    (settled_optional PopularityBounds.recognizes (by decide))
  intro popularity isPopularity
  apply settles_bind (.cons isYears (.cons isDistrict (.cons isPopularity .nil))) places
    (settled_optional SpreadBounds.recognizes (by decide))
  intro spread isSpread
  apply Settles.taken (called _)
  rw [places, written, Request.filterArguments, Request.ofString?_eq]
  exact .cons isYears (.cons isDistrict (.cons isPopularity (.cons isSpread .nil)))

/-- A list of arguments that is short enough comes to what it deserves. -/
theorem settles_ofArguments (short : items.length ≤ f.capacity) :
    Settles f items ((Request.ofArguments f items).mapError CallError.fault) := by
  have fits : ¬ f.parameters.length < items.length := by
    rw [f.length_parameters]
    omega
  unfold Request.ofArguments
  rw [if_neg fits]
  cases f with
  | nameCount => exact settles_filters (fun _ => rfl) (fun _ => rfl) rfl
  | nameRegionRarity => exact settles_filters (fun _ => rfl) (fun _ => rfl) rfl
  | nameYearCount =>
      apply settles_bind .nil rfl settled_required
      intro name isName
      apply settles_bind (.cons isName .nil) rfl
        (settled_optional YearBounds.recognizes (by decide))
      intro years isYears
      apply settles_bind (.cons isName (.cons isYears .nil)) rfl
        (settled_optional recognizes_district (by decide))
      intro district isDistrict
      refine .taken rfl ?_
      rw [Request.arguments, Request.ofString?_eq]
      exact .cons isName (.cons isYears (.cons isDistrict .nil))
  | nameDistrictCount =>
      apply settles_bind .nil rfl settled_required
      intro name isName
      apply settles_bind (.cons isName .nil) rfl
        (settled_optional YearBounds.recognizes (by decide))
      intro years isYears
      exact .taken rfl (.cons isName (.cons isYears .nil))

end Run

/-! ### Whole calls -/

namespace Function

theorem mem_all (f : Function) : f ∈ all := by
  cases f <;> decide

theorem ofName?_eq_some_iff {name : String} {f : Function} :
    ofName? name = some f ↔ f.name = name := by
  constructor
  · intro found
    simpa using List.find?_some found
  · rintro rfl
    exact Request.ofName?_name f

theorem ofName?_eq_none_iff {name : String} :
    ofName? name = none ↔ ∀ f : Function, f.name ≠ name := by
  simp [ofName?, mem_all]

end Function

namespace Request

variable {name : String} {value : Json} {f : Function} {items : List Json}

theorem ofValue_of_lists (known : f.name = name) (lists : Lists value items) :
    ofValue name value = ofArguments f items := by
  have found := Function.ofName?_eq_some_iff.mpr known
  cases lists <;> simp only [ofValue, found]

theorem ofValue_of_not_lists (known : f.name = name) (other : ∀ items, ¬ Lists value items) :
    ofValue name value = .error (.notAnArray f) := by
  have found := Function.ofName?_eq_some_iff.mpr known
  cases value with
  | null => exact absurd .null (other [])
  | array items => exact absurd (.array items) (other items)
  | _ => simp only [ofValue, found]

theorem ofArguments_of_long (long : f.capacity < items.length) :
    ofArguments f items = .error (.tooManyArguments f items.length) := by
  unfold ofArguments
  rw [f.length_parameters, if_pos long]

/-- A call comes to what it deserves. -/
theorem deserves_ofValue :
    Deserves name value ((ofValue name value).mapError CallError.fault) := by
  cases found : Function.ofName? name with
  | none =>
      simp only [ofValue, found]
      exact .unknownFunction (Function.ofName?_eq_none_iff.mp found)
  | some f =>
      have known := Function.ofName?_eq_some_iff.mp found
      by_cases listed : ∃ items, Lists value items
      · obtain ⟨items, lists⟩ := listed
        rw [ofValue_of_lists known lists]
        by_cases short : items.length ≤ f.capacity
        · exact .settled known lists short (settles_ofArguments short)
        · have long := Nat.lt_of_not_le short
          rw [ofArguments_of_long long]
          exact .tooManyArguments known lists long
      · have other := not_exists.mp listed
        rw [ofValue_of_not_lists known other]
        exact .notAnArray known other

/-- A call deserves nothing else than what it comes to. -/
theorem eq_of_deserves {outcome : Except CallFault Request}
    (deserves : Deserves name value outcome) :
    (ofValue name value).mapError CallError.fault = outcome := by
  cases deserves with
  | unknownFunction unknown =>
      have absent := Function.ofName?_eq_none_iff.mpr unknown
      simp only [ofValue, absent]
      rfl
  | notAnArray known other =>
      rw [ofValue_of_not_lists known other]
      rfl
  | tooManyArguments known lists long =>
      rw [ofValue_of_lists known lists, ofArguments_of_long long]
      rfl
  | settled known lists short settles =>
      rw [ofValue_of_lists known lists]
      exact (settles_ofArguments short).unique settles

/-- No call is malformed once its arguments are a value. -/
theorem not_deserves_malformed {fault : Json.Fault} :
    ¬ Deserves name value (.error (.malformed fault)) := by
  intro deserves
  cases deserves with
  | settled known lists short settles =>
      cases settles with
      | refused places stand faulty => cases faulty

/-- Whatever the name is, known or not. Arguments that come as a value are taken as the request that
the call deserves, or refused for the fault that it deserves. Arguments that come as a text are
malformed where the text is no JSON, and otherwise come to what their value does. They are refused
as malformed for no other reason. -/
theorem fault_iff_deserves (name : String) :
    (∀ value outcome, (ofValue name value).mapError CallError.fault = outcome ↔
      Deserves name value outcome) ∧
    (∀ text outcome, (ofText name text).mapError CallError.fault = outcome ↔
      (∃ fault, Json.parse text = .error fault ∧ outcome = .error (.malformed fault)) ∨
      ∃ value, Json.parse text = .ok value ∧ Deserves name value outcome) ∧
    ∀ text fault, ofText name text = .error (.malformed fault) ↔
      Json.parse text = .error fault := by
  have ofValue_iff : ∀ value outcome, (ofValue name value).mapError CallError.fault = outcome ↔
      Deserves name value outcome := by
    intro value outcome
    constructor
    · rintro rfl
      exact deserves_ofValue
    · exact eq_of_deserves
  refine ⟨ofValue_iff, ?_, ?_⟩
  · intro text outcome
    unfold ofText
    cases Json.parse text with
    | error fault => simp [CallError.fault, eq_comm]
    | ok value => simp [ofValue_iff]
  · intro text fault
    unfold ofText
    cases Json.parse text with
    | error fault' => simp
    | ok value =>
        simp only [reduceCtorEq, iff_false]
        intro malformed
        have deserves : Deserves name value (.error (.malformed fault)) :=
          (ofValue_iff value _).mp (by rw [malformed]; rfl)
        exact not_deserves_malformed deserves

/-- A list with a fault in every place is refused for the first, and a list that is too long for its
length. -/
example :
    ofText "name_year_count" "[null,[1.0],true]" = .error (.missingArgument .nameYearCount .name) ∧
    ofText "name_district_count" "[null,[1.0],true]" =
      .error (.tooManyArguments .nameDistrictCount 3) ∧
    ofText "name_trend" "\x7b\x7d" = .error (.unknownFunction "name_trend") := by
  decide +kernel

end Request

end GivenNames
