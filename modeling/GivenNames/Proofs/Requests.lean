import GivenNames.Proofs.Calls
import GivenNames.Proofs.Json.Bounds

/-!
Requests as lists of arguments.

`Request.arguments` writes a request and `Request.decode` reads it. Main statements: an argument
that is null at the end of a list that is not full may as well be left out, whatever the other
arguments are (`ofArguments_append_null`), and the text of the arguments of a request is taken as
that request, with any number of its trailing nulls left out (`ofText_arguments`). Bounds meet their
form member by member, and a struct of absent bounds is not an absent struct.
-/

namespace GivenNames

open Json (Form Plain)

/-! ### Words -/

namespace Json.Form

variable {α β : Type}

theorem ofValue_int32 (k : Int32) : int32.ofValue (.int k.toInt) = .ok k := by
  have least : -0x80000000 ≤ k.toInt := k.le_toInt
  have greatest : k.toInt ≤ 0x7fffffff := Int.le_of_lt_add_one k.toInt_lt
  simp only [int32, map, ofValue_integer_iff.mpr ⟨rfl, least, greatest⟩, Except.map,
    Int32.ofInt_toInt]

theorem ofValue_int64 (k : Int64) : int64.ofValue (.int k.toInt) = .ok k := by
  have least : -0x8000000000000000 ≤ k.toInt := k.le_toInt
  have greatest : k.toInt ≤ 0x7fffffffffffffff := Int.le_of_lt_add_one k.toInt_lt
  simp only [int64, map, ofValue_integer_iff.mpr ⟨rfl, least, greatest⟩, Except.map,
    Int64.ofInt_toInt]

theorem plain_ofInt? {toInt : α → Int} (words : ∀ k, IsWord (toInt k)) (k : Option α) {n : Nat} :
    Plain n (Json.ofInt? (k.map toInt)) := by
  cases k with
  | none => exact .null
  | some k => exact .int (words k)

theorem sorted_ofInt? (k : Option Int) : (Json.ofInt? k).sorted = Json.ofInt? k := by
  cases k <;> rfl

/-- An integer or nothing is taken as a word or nothing. -/
theorem ofValue_ofInt? {form : Form α} {toInt : α → Int}
    (gives : ∀ k, form.ofValue (.int (toInt k)) = .ok k) (k : Option α) :
    form.optional.ofValue (Json.ofInt? (k.map toInt)) = .ok k := by
  cases k with
  | none => rfl
  | some k => simp only [Option.map_some, Json.ofInt?, optional, gives, Except.map]

/-! ### Bounds -/

/-- A record of two members that may be left out is given by an object of both, brought into key
order. -/
theorem ofValue_pair {name low high : String} {form : Form β} {putLow putHigh : β → α → α}
    {blank : α} {v w : Json} {x y : β} (different : low ≠ high)
    (apart : ∀ record, putLow x (putHigh y record) = putHigh y (putLow x record))
    (gives : form.ofValue v.sorted = .ok x) (gives' : form.ofValue w.sorted = .ok y) :
    (record name [.of low [] false form putLow, .of high [] false form putHigh] blank).ofValue
      (Json.object [(low, v), (high, w)]).sorted = .ok (putHigh y (putLow x blank)) := by
  let slots : List (Slot α) := [.of low [] false form putLow, .of high [] false form putHigh]
  have lower : slots.find? (·.isFor low) = some (.of low [] false form putLow) := by
    simp [slots, Slot.of, Slot.isFor]
  have upper : slots.find? (·.isFor high) = some (.of high [] false form putHigh) := by
    simp [slots, Slot.of, Slot.isFor, different]
  have order : (sortedMembers [(low, v), (high, w)] []).Perm
      [(low, v.sorted), (high, w.sorted)] := sortedMembers_perm (by simpa using different)
  rw [Json.sorted]
  refine ofValue_record_of_perm
    [.putting low v.sorted x lower, .putting high w.sorted y upper] ⟨?_, ?_⟩ ?_ ?_ order rfl
  · simpa [Entry.putting, Entry.name, Slot.of] using different
  · simp [Slot.of]
  · simp [Entry.Apart, Entry.putting, apart]
  · simp only [List.forall_mem_cons]
    exact ⟨Entry.ofValue_putting gives, Entry.ofValue_putting gives', by simp⟩

/-- What is written for values of a type is never null, survives as text, and gives back the value
it was written for. -/
structure Inverts (form : Form α) (toJson : α → Json) : Prop where
  solid : ∀ x, (toJson x).sorted ≠ .null
  plain : ∀ x n, Plain (n + 1) (toJson x)
  gives : ∀ x, form.ofValue (toJson x).sorted = .ok x

/-- Bounds: a record of two words that may be absent. -/
theorem inverts_pair {name low high : String} {form : Form β} {toInt : β → Int}
    {putLow putHigh : Option β → α → α} {getLow getHigh : α → Option β} {blank : α}
    (words : ∀ k, IsWord (toInt k)) (gives : ∀ k, form.ofValue (.int (toInt k)) = .ok k)
    (different : low ≠ high)
    (apart : ∀ x y record, putLow x (putHigh y record) = putHigh y (putLow x record))
    (whole : ∀ record, putHigh (getHigh record) (putLow (getLow record) blank) = record) :
    (record name [.of low [] false form.optional putLow, .of high [] false form.optional putHigh]
      blank).Inverts fun record => .object [(low, .ofInt? ((getLow record).map toInt)),
        (high, .ofInt? ((getHigh record).map toInt))] where
  solid _ := nofun
  plain _ _ := by
    refine .object ?_
    simp only [List.forall_mem_cons]
    exact ⟨plain_ofInt? words _, plain_ofInt? words _, by simp⟩
  gives record := by
    have low := ofValue_ofInt? gives (getLow record)
    have high := ofValue_ofInt? gives (getHigh record)
    rw [← sorted_ofInt?] at low high
    rw [ofValue_pair different (apart _ _) low high, whole]

end Json.Form

theorem YearBounds.inverts : form.Inverts toJson :=
  Form.inverts_pair isWord_int32 Form.ofValue_int32 (by decide) (fun _ _ _ => rfl)
    fun _ => rfl

theorem PopularityBounds.inverts : form.Inverts toJson :=
  Form.inverts_pair isWord_int64 Form.ofValue_int64 (by decide) (fun _ _ _ => rfl)
    fun _ => rfl

theorem SpreadBounds.inverts : form.Inverts toJson :=
  Form.inverts_pair isWord_int64 Form.ofValue_int64 (by decide) (fun _ _ _ => rfl)
    fun _ => rfl

namespace Request

/-! ### Trailing nulls -/

section Nulls

variable {α : Type} {f : Function} {args : List Json}

theorem optional_append_null (position : Nat) (a : Argument) (form : Form α) :
    optional f (args ++ [Json.null]) position a form = optional f args position a form := by
  unfold optional
  rcases Nat.lt_trichotomy position args.length with inside | rfl | beyond
  · rw [List.getElem?_append_left inside]
  · simp
  · have outside : (args ++ [Json.null]).length ≤ position := by simpa using beyond
    rw [List.getElem?_eq_none outside, List.getElem?_eq_none (Nat.le_of_lt beyond)]

theorem required_append_null (position : Nat) (a : Argument) (form : Form α) :
    required f (args ++ [Json.null]) position a form = required f args position a form := by
  simp only [required, optional_append_null]

theorem filters_append_null : filters f (args ++ [Json.null]) = filters f args := by
  simp only [filters, optional_append_null]

/-- A null at the end of a list that is not full makes no difference, neither to what is taken nor
to the fault. -/
theorem ofArguments_append_null (short : args.length < f.parameters.length) :
    ofArguments f (args ++ [Json.null]) = ofArguments f args := by
  have fits : ¬ f.parameters.length < (args ++ [Json.null]).length := by
    simp only [List.length_append, List.length_singleton]
    omega
  have fits' : ¬ f.parameters.length < args.length := by omega
  simp only [ofArguments, if_neg fits, if_neg fits', filters_append_null, required_append_null,
    optional_append_null]

theorem ofArguments_append_nulls {k : Nat} (fits : args.length + k ≤ f.parameters.length) :
    ofArguments f (args ++ List.replicate k Json.null) = ofArguments f args := by
  induction k with
  | zero => simp
  | succ k ih =>
      rw [List.replicate_succ', ← List.append_assoc, ofArguments_append_null, ih (by omega)]
      simp only [List.length_append, List.length_replicate]
      omega

end Nulls

/-! ### Written arguments -/

section Arguments

variable {α : Type} {f : Function} {form : Form α} {toJson : α → Json}

theorem inverts_string : Form.string.Inverts .string where
  solid _ := nofun
  plain _ _ := .string _
  gives _ := rfl

theorem inverts_district : districtForm.Inverts .string where
  solid _ := nofun
  plain _ _ := .string _
  gives _ := rfl

theorem ofString?_eq (s : Option String) : Json.ofString? s = argument .string s := by
  cases s <;> rfl

theorem plain_argument (inverts : form.Inverts toJson) (x : Option α) (n : Nat) :
    Plain (n + 1) (argument toJson x) := by
  cases x with
  | none => exact .null
  | some x => exact inverts.plain x n

/-- A written argument is taken as what it was written for. -/
theorem optional_argument (inverts : form.Inverts toJson) {args : List Json} {position : Nat}
    {x : Option α} (given : args[position]? = some (argument toJson x).sorted) (a : Argument) :
    optional f args position a form = .ok x := by
  unfold optional
  cases x with
  | none => simp [given, argument, Json.sorted]
  | some x =>
      have solid : (argument toJson (some x)).sorted ≠ .null := inverts.solid x
      have gives : form.ofValue (argument toJson (some x)).sorted = .ok x := inverts.gives x
      rw [given]
      -- By `solid` the argument is not null, so it is the form that decides.
      simp [gives]

theorem required_argument (inverts : form.Inverts toJson) {args : List Json} {position : Nat}
    {x : α} (given : args[position]? = some (toJson x).sorted) (a : Argument) :
    required f args position a form = .ok x := by
  have taken : optional f args position a form = .ok (some x) := optional_argument inverts given a
  rw [required, taken]

theorem filters_filterArguments (f : Function) (x : Filters) :
    filters f ((filterArguments x).map Json.sorted) = .ok x := by
  simp only [filterArguments, ofString?_eq]
  rw [filters, optional_argument YearBounds.inverts rfl, optional_argument inverts_district rfl,
    optional_argument PopularityBounds.inverts rfl, optional_argument SpreadBounds.inverts rfl]
  rfl

theorem length_arguments (q : Request) : q.arguments.length = q.function.parameters.length := by
  cases q <;> rfl

/-- The arguments of a request, each in key order, are taken as that request. -/
theorem ofArguments_arguments (q : Request) :
    ofArguments q.function (q.arguments.map Json.sorted) = .ok q := by
  have fits : ¬ q.function.parameters.length < (q.arguments.map Json.sorted).length := by
    rw [List.length_map, length_arguments]
    exact Nat.lt_irrefl _
  unfold ofArguments
  rw [if_neg fits]
  cases q with
  | table f => exact congrArg (Except.map table) (filters_filterArguments .nameCount f)
  | trend name years district =>
      simp only [function, arguments, ofString?_eq]
      rw [required_argument inverts_string rfl, optional_argument YearBounds.inverts rfl,
        optional_argument inverts_district rfl]
      rfl
  | scatter f => exact congrArg (Except.map scatter) (filters_filterArguments .nameRegionRarity f)
  | map name years =>
      simp only [function, arguments]
      rw [required_argument inverts_string rfl, optional_argument YearBounds.inverts rfl]
      rfl

end Arguments

/-! ### Texts -/

theorem ofName?_name (f : Function) : Function.ofName? f.name = some f := by
  cases f <;> decide

/-- A null at the end of a list that is not full makes no difference to the call it is the
arguments of. -/
theorem ofValue_append_null {f : Function} {args : List Json}
    (short : args.length < f.parameters.length) :
    ofValue f.name (.array (args ++ [Json.null])) = ofValue f.name (.array args) := by
  simp only [ofValue, ofName?_name]
  exact ofArguments_append_null short

theorem sortedItems_eq_map (vs : List Json) : Json.sortedItems vs = vs.map Json.sorted := by
  induction vs with
  | nil => rfl
  | cons v vs ih => rw [Json.sortedItems, ih, List.map_cons]

theorem plain_arguments (q : Request) (n : Nat) : ∀ v ∈ q.arguments, Plain (n + 1) v := by
  have filters (x : Filters) : ∀ v ∈ filterArguments x, Plain (n + 1) v := by
    simp only [filterArguments, ofString?_eq, List.forall_mem_cons]
    exact ⟨plain_argument YearBounds.inverts _ n, plain_argument inverts_district _ n,
      plain_argument PopularityBounds.inverts _ n, plain_argument SpreadBounds.inverts _ n, by simp⟩
  cases q with
  | table f => exact filters f
  | trend name years district =>
      simp only [arguments, ofString?_eq, List.forall_mem_cons]
      exact ⟨.string name, plain_argument YearBounds.inverts _ n,
        plain_argument inverts_district _ n, by simp⟩
  | scatter f => exact filters f
  | map name years =>
      simp only [arguments, List.forall_mem_cons]
      exact ⟨.string name, plain_argument YearBounds.inverts _ n, by simp⟩

/-- The arguments of a request, with trailing nulls left out, are taken as that request from any
text that is read as them. -/
theorem ofText_of_parse_arguments {q : Request} {args : List Json} {k : Nat}
    (arguments : args ++ List.replicate k Json.null = q.arguments) {text : String}
    (parsed : Json.parse text = .ok (Json.array args).sorted) :
    ofText q.function.name text = .ok q := by
  have nulls :
      args.map Json.sorted ++ List.replicate k Json.null = q.arguments.map Json.sorted := by
    rw [← arguments, List.map_append, List.map_replicate]
    rfl
  have fits : (args.map Json.sorted).length + k ≤ q.function.parameters.length := by
    rw [← length_arguments, ← arguments]
    simp
  rw [ofText_of_parse parsed, Json.sorted, sortedItems_eq_map]
  simp only [ofValue, ofName?_name]
  -- The nulls that were left out are put back, which changes nothing.
  rw [← ofArguments_append_nulls fits, nulls, ofArguments_arguments]

/-- A request and its arguments. The text of the arguments is taken as that very request, with any
number of the nulls at its end left out. For every function, a null at the end of a list that is not
full changes neither the request that is taken nor the fault, whether the arguments come as a list,
as a value or as a text. -/
theorem ofText_arguments (q : Request) (f : Function) :
    (∀ (args : List Json) (k : Nat), args ++ List.replicate k Json.null = q.arguments →
      ofText q.function.name (Json.array args).text = .ok q) ∧
    ∀ args : List Json, args.length < f.parameters.length →
      decode f.name (args ++ [Json.null]) = decode f.name args ∧
      ofValue f.name (.array (args ++ [Json.null])) = ofValue f.name (.array args) ∧
      ∀ text text' : String, Json.parse text = .ok (.array args) →
        Json.parse text' = .ok (.array (args ++ [Json.null])) →
        ofText f.name text' = ofText f.name text := by
  constructor
  · intro args k nulls
    refine ofText_of_parse_arguments nulls (Json.parse_text (.array fun v member => ?_))
    exact plain_arguments q 125 v (nulls ▸ List.mem_append_left _ member)
  · intro args short
    have taken := ofArguments_append_null short
    have value := ofValue_append_null short
    refine ⟨by simpa only [decode, ofName?_name] using taken, value, ?_⟩
    intro text text' parsed parsed'
    rw [ofText_of_parse parsed, ofText_of_parse parsed', value]

/-- A request with a year at the end of its range, a district that spells a number, and a struct of
absent bounds in front of an absent struct. -/
def edgeSample : Request :=
  .table ⟨some ⟨some (-2147483648), none⟩, some "101", some ⟨none, none⟩, none⟩

/-- Its arguments, without the null at their end. -/
def edgeArguments : List Json :=
  edgeSample.arguments.take 3

/-- The text of these arguments. -/
def edgeText : String :=
  "[\x7b\"year_min\":-2147483648,\"year_max\":null\x7d,\"101\","
    ++ "\x7b\"maxtotal\":null,\"maxperyear\":null\x7d]"

/-- The text gives back the request, and a null in place of the name a trend must have is refused as
no name at all is. -/
theorem ofText_arguments_edgeSample :
    edgeArguments ++ List.replicate 1 Json.null = edgeSample.arguments ∧
    (Json.array edgeArguments).text = edgeText ∧
    ofText "name_count" edgeText = .ok edgeSample ∧
    decode "name_year_count" [.null] = decode "name_year_count" [] ∧
    ofText "name_year_count" "[null]" = ofText "name_year_count" "[]" ∧
    ofText "name_year_count" "[]" = .error (.missingArgument .nameYearCount .name) := by
  have nulls : edgeArguments ++ List.replicate 1 Json.null = edgeSample.arguments := rfl
  have printed : (Json.array edgeArguments).text = edgeText := by decide +kernel
  obtain ⟨taken, dropped⟩ := ofText_arguments edgeSample .nameYearCount
  obtain ⟨listed, _, written⟩ := dropped [] (by decide)
  refine ⟨nulls, printed, ?_, listed, written "[]" "[null]" rfl rfl, by decide +kernel⟩
  rw [← printed]
  exact taken edgeArguments 1 nulls

end Request

end GivenNames
