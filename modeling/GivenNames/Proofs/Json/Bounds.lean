import GivenNames.Proofs.Json.Slots

/-!
Bounds as they may be given.

Bounds are two integers of a range, either of which may be absent or null. They are given by an
object with a key for each of them, other members aside, or by an array of at most two items
(`Pair`). Main statement: the form of a record of two such parts takes exactly these values, each as
the two bounds that it gives (`recognizes_pair`).
-/

namespace GivenNames.Json

/-! ### The grammar -/

/-- Null, or an integer of a closed range. -/
inductive IsBound (lo hi : Int) : Json → Prop
  | absent : IsBound lo hi .null
  | integer {n : Int} (least : lo ≤ n) (greatest : n ≤ hi) : IsBound lo hi (.int n)

/-- A bound is read as it is. -/
abbrev ReadsBound (lo hi : Int) (v w : Json) : Prop :=
  IsBound lo hi v ∧ v = w

/-- What members hold at a key that stands among them at most once: null where it does not stand
there. Members that were read have every key at most once. -/
inductive Holds (key : String) (members : List (String × Json)) : Json → Prop
  | absent (none : membersAt key members = []) : Holds key members .null
  | once {value : Json} (only : membersAt key members = [(key, value)]) : Holds key members value

theorem Holds.unique {key : String} {members : List (String × Json)} {x y : Json}
    (holds : Holds key members x) (holds' : Holds key members y) : x = y := by
  cases holds with
  | absent none =>
      cases holds' with
      | absent => rfl
      | once only =>
          rw [none] at only
          cases only
  | once only =>
      cases holds' with
      | absent none =>
          rw [none] at only
          cases only
      | once only' =>
          rw [only] at only'
          cases only'
          rfl

/-- The two values that an object holds at two keys, or the items of an array of at most two. -/
inductive Gives (low high : String) : Json → Json → Json → Prop
  | members {members : List (String × Json)} {x y : Json} (lower : Holds low members x)
      (upper : Holds high members y) : Gives low high (.object members) x y
  | items {items : List Json} (few : items.length ≤ 2) :
      Gives low high (.array items) (items[0]?.getD .null) (items[1]?.getD .null)

/-- A value that gives two bounds, and the object of these two. -/
inductive Pair (low high : String) (lo hi : Int) : Json → Json → Prop
  | bounds {v x y : Json} (gives : Gives low high v x y) (lower : IsBound lo hi x)
      (upper : IsBound lo hi y) : Pair low high lo hi v (.object [(low, x), (high, y)])

namespace Form

variable {α γ : Type}

/-- The form takes exactly the values that are read, each as something that is written as the value
is read. -/
def Recognizes (form : Form α) (toJson : α → Json) (reads : Json → Json → Prop) : Prop :=
  ∀ v w, reads v w ↔ ∃ x, form.ofValue v = .ok x ∧ toJson x = w

section Recognizes

variable {form : Form α} {toJson : α → Json} {reads : Json → Json → Prop}
  (recognizes : form.Recognizes toJson reads) {v w w' : Json}

include recognizes

/-- What is recognized is read as one thing only. -/
theorem Recognizes.unique (is : reads v w) (is' : reads v w') : w = w' := by
  obtain ⟨x, taken, rfl⟩ := (recognizes v w).mp is
  obtain ⟨x', taken', rfl⟩ := (recognizes v w').mp is'
  rw [taken] at taken'
  rw [Except.ok.inj taken']

theorem Recognizes.not_of_error {cause : Cause} (refused : form.ofValue v = .error cause) :
    ¬ reads v w := by
  intro is
  obtain ⟨x, taken, -⟩ := (recognizes v w).mp is
  rw [refused] at taken
  cases taken

end Recognizes

/-! ### One bound -/

theorem ofValue_integer_iff {lo hi k : Int} {expected : Expected} {v : Json} :
    (integer lo hi expected).ofValue v = .ok k ↔ v = .int k ∧ lo ≤ k ∧ k ≤ hi := by
  cases v with
  | int n =>
      by_cases inside : lo ≤ n ∧ n ≤ hi
      · simp only [integer, if_pos inside, Except.ok.injEq, Json.int.injEq]
        constructor
        · rintro rfl
          exact ⟨rfl, inside⟩
        · exact And.left
      · simp only [integer, if_neg inside, Json.int.injEq, reduceCtorEq, false_iff]
        rintro ⟨rfl, here⟩
        exact inside here
  | _ => simp [integer]

theorem ofValue_optional_of_ne_null {form : Form α} {v : Json} (given : v ≠ .null) :
    form.optional.ofValue v = (form.ofValue v).map some := by
  cases v with
  | null => exact absurd rfl given
  | _ => rfl

/-- A bound is taken as a word or as none, where every integer of the range is a word. -/
theorem recognizes_bound {lo hi : Int} (expected : Expected) {ofInt : Int → α} {toInt : α → Int}
    (back : ∀ n, lo ≤ n → n ≤ hi → toInt (ofInt n) = n) :
    ((integer lo hi expected).map ofInt).optional.Recognizes (fun k => .ofInt? (k.map toInt))
      (ReadsBound lo hi) := by
  intro v w
  constructor
  · rintro ⟨bound, rfl⟩
    cases bound with
    | absent => exact ⟨none, rfl, rfl⟩
    | @integer n least greatest =>
        have inside : (integer lo hi expected).ofValue (.int n) = .ok n :=
          ofValue_integer_iff.mpr ⟨rfl, least, greatest⟩
        refine ⟨some (ofInt n), ?_, ?_⟩
        · simp only [optional, map, inside, Except.map]
        · simp only [Option.map_some, ofInt?, back n least greatest]
  · rintro ⟨k, taken, rfl⟩
    by_cases null : v = .null
    · subst null
      cases taken
      exact ⟨.absent, rfl⟩
    · rw [ofValue_optional_of_ne_null null] at taken
      obtain ⟨word, given, rfl⟩ := map_eq_ok_iff.mp taken
      obtain ⟨n, integer, rfl⟩ := map_eq_ok_iff.mp given
      obtain ⟨rfl, least, greatest⟩ := ofValue_integer_iff.mp integer
      refine ⟨.integer least greatest, ?_⟩
      simp only [Option.map_some, ofInt?, back n least greatest]

theorem recognizes_int32 :
    int32.optional.Recognizes (fun k => .ofInt? (k.map Int32.toInt))
      (ReadsBound (-0x80000000) 0x7fffffff) :=
  recognizes_bound .int32 fun n least greatest => Int32.toInt_ofInt_of_le (by omega) (by omega)

theorem recognizes_int64 :
    int64.optional.Recognizes (fun k => .ofInt? (k.map Int64.toInt))
      (ReadsBound (-0x8000000000000000) 0x7fffffffffffffff) :=
  recognizes_bound .int64 fun n least greatest => Int64.toInt_ofInt_of_le (by omega) (by omega)

/-! ### Two bounds -/

/-- Two parts of a record, each of which is put without a change to the other. -/
structure Parts (putLow putHigh : γ → α → α) (getLow getHigh : α → γ) : Prop where
  low_low : ∀ x record, getLow (putLow x record) = x
  low_high : ∀ y record, getLow (putHigh y record) = getLow record
  high_low : ∀ x record, getHigh (putLow x record) = getHigh record
  high_high : ∀ y record, getHigh (putHigh y record) = y

section Pairs

variable {name low high : String} {lo hi : Int} {form : Form γ} {write : γ → Json}
  {putLow putHigh : γ → α → α} {getLow getHigh : α → γ} {blank : α}

/-- The slots of two parts. -/
abbrev pairSlots (low high : String) (form : Form γ) (putLow putHigh : γ → α → α) :
    List (Slot α) :=
  [.of low [] false form putLow, .of high [] false form putHigh]

theorem keyed_pairSlots (different : low ≠ high) :
    Keyed (pairSlots low high form putLow putHigh) where
  bare := by simp [pairSlots, Slot.of]
  distinct := by simpa [pairSlots, Slot.of] using different

/-- What becomes of a blank part is what the members hold at its key, which is a bound. -/
theorem holds_of_ends {key : String} {members : List (String × Json)} {get : α → γ}
    {record : α} (bounds : form.Recognizes write (ReadsBound lo hi))
    (blankNull : write (get blank) = .null)
    (ends : (membersAt key members = [] ∧ get record = get blank) ∨
      key ∉ ([] : List String) ∧ ∃ value x, membersAt key members = [(key, value)] ∧
        form.ofValue value = .ok x ∧ get record = x) :
    Holds key members (write (get record)) ∧ IsBound lo hi (write (get record)) := by
  rcases ends with ⟨none, kept⟩ | ⟨-, value, x, only, takes, rfl⟩
  · rw [kept, blankNull]
    exact ⟨.absent none, .absent⟩
  · obtain ⟨bound, same⟩ := (bounds value (write (get record))).mpr ⟨_, takes, rfl⟩
    rw [← same]
    exact ⟨.once only, bound⟩

variable (parts : Parts putLow putHigh getLow getHigh)
  (bounds : form.Recognizes write (ReadsBound lo hi))
  (blankLow : write (getLow blank) = .null) (blankHigh : write (getHigh blank) = .null)

/-- A part that members hold a bound for, or none, is left alone or filled once. -/
theorem fits_of_holds {key : String} {put : γ → α → α} {members : List (String × Json)} {v : Json}
    (bounds : form.Recognizes write (ReadsBound lo hi))
    (holds : Holds key members v) (bound : IsBound lo hi v) :
    (Slot.of key [] false form put).Fits [] members := by
  cases holds with
  | absent none => exact .inl none
  | once only =>
      obtain ⟨x, takes, -⟩ := (bounds v v).mp ⟨bound, rfl⟩
      refine .inr ⟨List.not_mem_nil, v, put x, only, ?_⟩
      simp only [Slot.of, map, takes, Except.map]

include parts bounds blankLow blankHigh

/-- A pair taken from members holds what the members hold. -/
theorem holds_of_ofMembers (different : low ≠ high) {members : List (String × Json)}
    {filling : Filling α}
    (taken : Filling.ofMembers (pairSlots low high form putLow putHigh) ⟨blank, []⟩ members =
      .ok filling) :
    (Holds low members (write (getLow filling.record)) ∧
        IsBound lo hi (write (getLow filling.record))) ∧
      Holds high members (write (getHigh filling.record)) ∧
        IsBound lo hi (write (getHigh filling.record)) := by
  have keyed : Keyed (pairSlots low high form putLow putHigh) := keyed_pairSlots different
  have first : .of low [] false form putLow ∈ pairSlots low high form putLow putHigh :=
    List.mem_cons_self
  have second : .of high [] false form putHigh ∈ pairSlots low high form putLow putHigh :=
    List.mem_cons_of_mem _ List.mem_cons_self
  constructor
  · refine holds_of_ends bounds blankLow (ends_of_ofMembers keyed first parts.low_low ?_ taken)
    intro slot here other value change gives record
    simp only [List.mem_cons, List.not_mem_nil, or_false] at here
    rcases here with rfl | rfl
    · exact absurd rfl other
    · obtain ⟨y, -, rfl⟩ := map_eq_ok_iff.mp gives
      exact parts.low_high y record
  · refine holds_of_ends bounds blankHigh (ends_of_ofMembers keyed second parts.high_high ?_ taken)
    intro slot here other value change gives record
    simp only [List.mem_cons, List.not_mem_nil, or_false] at here
    rcases here with rfl | rfl
    · obtain ⟨x, -, rfl⟩ := map_eq_ok_iff.mp gives
      exact parts.high_low x record
    · exact absurd rfl other

omit parts bounds blankLow blankHigh

/-- Members are taken as a pair where they are taken at all: neither part must be there. -/
theorem ofValue_pair_object {members : List (String × Json)} {r : α} :
    (record name (pairSlots low high form putLow putHigh) blank).ofValue (.object members) = .ok r ↔
      ∃ filling, Filling.ofMembers (pairSlots low high form putLow putHigh) ⟨blank, []⟩ members =
        .ok filling ∧ filling.record = r := by
  have complete (filling : Filling α) :
      filling.missing? (pairSlots low high form putLow putHigh) = none := by
    simp [Filling.missing?, pairSlots, Slot.of]
  cases taken : Filling.ofMembers (pairSlots low high form putLow putHigh) ⟨blank, []⟩ members with
  | error cause => simp [record, taken]
  | ok filling => simp [record, taken, complete]

/-- The first two items fill the parts in order, and there is no third. -/
theorem ofValue_pair_array {items : List Json} {r : α} :
    (record name (pairSlots low high form putLow putHigh) blank).ofValue (.array items) = .ok r ↔
      (items = [] ∧ blank = r) ∨
      (∃ v x, items = [v] ∧ form.ofValue v = .ok x ∧ putLow x blank = r) ∨
      ∃ v v' x y, items = [v, v'] ∧ form.ofValue v = .ok x ∧ form.ofValue v' = .ok y ∧
        putHigh y (putLow x blank) = r := by
  cases items with
  | nil => simp [record, pairSlots, slotsOfItems, Slot.of]
  | cons v items =>
      cases takes : form.ofValue v with
      | error cause =>
          simp [record, pairSlots, slotsOfItems, Slot.of, map, takes, Except.map]
      | ok x =>
          cases items with
          | nil => simp [record, pairSlots, slotsOfItems, Slot.of, map, takes, Except.map]
          | cons v' items =>
              cases takes' : form.ofValue v' with
              | error cause =>
                  simp [record, pairSlots, slotsOfItems, Slot.of, map, takes, takes', Except.map]
              | ok y =>
                  cases items <;>
                    simp [record, pairSlots, slotsOfItems, Slot.of, map, takes, takes', Except.map]

include parts bounds blankLow blankHigh

/-- What an object holds at the two keys is taken, where it is two bounds. -/
theorem exists_pair_of_members (different : low ≠ high) {members : List (String × Json)}
    {x y : Json} (holdsLow : Holds low members x) (holdsHigh : Holds high members y)
    (lower : IsBound lo hi x) (upper : IsBound lo hi y) :
    ∃ r, (record name (pairSlots low high form putLow putHigh) blank).ofValue (.object members) =
      .ok r ∧ write (getLow r) = x ∧ write (getHigh r) = y := by
  have keyed : Keyed (pairSlots low high form putLow putHigh) := keyed_pairSlots different
  have fits : ∀ slot ∈ pairSlots low high form putLow putHigh, slot.Fits [] members := by
    simp only [List.forall_mem_cons]
    exact ⟨fits_of_holds bounds holdsLow lower, fits_of_holds bounds holdsHigh upper, by simp⟩
  have filled : ∃ filling, Filling.ofMembers (pairSlots low high form putLow putHigh) ⟨blank, []⟩
      members = .ok filling := (exists_ofMembers_iff keyed).mpr fits
  obtain ⟨filling, taken⟩ := filled
  obtain ⟨⟨isLow, -⟩, isHigh, -⟩ :=
    holds_of_ofMembers parts bounds blankLow blankHigh different taken
  exact ⟨filling.record, ofValue_pair_object.mpr ⟨filling, taken, rfl⟩, isLow.unique holdsLow,
    isHigh.unique holdsHigh⟩

/-- At most two items are taken, where they are bounds. -/
theorem exists_pair_of_items {items : List Json} (few : items.length ≤ 2)
    (lower : IsBound lo hi (items[0]?.getD .null)) (upper : IsBound lo hi (items[1]?.getD .null)) :
    ∃ r, (record name (pairSlots low high form putLow putHigh) blank).ofValue (.array items) =
      .ok r ∧ write (getLow r) = items[0]?.getD .null ∧
        write (getHigh r) = items[1]?.getD .null := by
  cases items with
  | nil => exact ⟨blank, rfl, blankLow, blankHigh⟩
  | cons v items =>
      obtain ⟨x, takes, isLow⟩ := (bounds v v).mp ⟨lower, rfl⟩
      cases items with
      | nil =>
          refine ⟨putLow x blank, ofValue_pair_array.mpr (.inr (.inl ⟨v, x, rfl, takes, rfl⟩)), ?_⟩
          rw [parts.low_low, parts.high_low]
          exact ⟨isLow, blankHigh⟩
      | cons v' items =>
          obtain ⟨y, takes', isHigh⟩ := (bounds v' v').mp ⟨upper, rfl⟩
          have last : items = [] := by
            simp only [List.length_cons] at few
            exact List.eq_nil_of_length_eq_zero (by omega)
          subst last
          refine ⟨putHigh y (putLow x blank),
            ofValue_pair_array.mpr (.inr (.inr ⟨v, v', x, y, rfl, takes, takes', rfl⟩)), ?_⟩
          rw [parts.low_high, parts.low_low, parts.high_high]
          exact ⟨isLow, isHigh⟩

/-- What is taken from an array was given by it. -/
theorem pair_of_array {items : List Json} {r : α}
    (taken : (record name (pairSlots low high form putLow putHigh) blank).ofValue (.array items) =
      .ok r) :
    Pair low high lo hi (.array items)
      (.object [(low, write (getLow r)), (high, write (getHigh r))]) := by
  rcases ofValue_pair_array.mp taken with ⟨rfl, rfl⟩ | ⟨v, x, rfl, takes, rfl⟩ |
    ⟨v, v', x, y, rfl, takes, takes', rfl⟩
  · rw [blankLow, blankHigh]
    exact .bounds (.items (by simp)) .absent .absent
  · obtain ⟨lower, rfl⟩ := (bounds v (write x)).mpr ⟨x, takes, rfl⟩
    rw [parts.low_low, parts.high_low, blankHigh]
    exact .bounds (.items (by simp)) lower .absent
  · obtain ⟨lower, rfl⟩ := (bounds v (write x)).mpr ⟨x, takes, rfl⟩
    obtain ⟨upper, rfl⟩ := (bounds v' (write y)).mpr ⟨y, takes', rfl⟩
    rw [parts.low_high, parts.low_low, parts.high_high]
    exact .bounds (.items (by simp)) lower upper

/-- The form of a record of two parts takes exactly the values that give two bounds, each as the
two bounds that it gives. -/
theorem recognizes_pair (different : low ≠ high) :
    (record name (pairSlots low high form putLow putHigh) blank).Recognizes
      (fun r => .object [(low, write (getLow r)), (high, write (getHigh r))])
      (Pair low high lo hi) := by
  intro v w
  constructor
  · rintro ⟨gives, lower, upper⟩
    cases gives with
    | members holdsLow holdsHigh =>
        obtain ⟨r, taken, isLow, isHigh⟩ := exists_pair_of_members parts bounds blankLow blankHigh
          different holdsLow holdsHigh lower upper
        exact ⟨r, taken, by simp only [isLow, isHigh]⟩
    | items few =>
        obtain ⟨r, taken, isLow, isHigh⟩ := exists_pair_of_items parts bounds blankLow blankHigh
          few lower upper
        exact ⟨r, taken, by simp only [isLow, isHigh]⟩
  · rintro ⟨r, taken, rfl⟩
    cases v with
    | object members =>
        obtain ⟨filling, filled, rfl⟩ := ofValue_pair_object.mp taken
        obtain ⟨⟨isLow, lower⟩, isHigh, upper⟩ :=
          holds_of_ofMembers parts bounds blankLow blankHigh different filled
        exact .bounds (.members isLow isHigh) lower upper
    | array items => exact pair_of_array parts bounds blankLow blankHigh taken
    | _ => cases taken

end Pairs

end Form

end GivenNames.Json
