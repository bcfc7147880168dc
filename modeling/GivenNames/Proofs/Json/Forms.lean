import GivenNames.Json.Form
import GivenNames.Proofs.Json.Written
import Mathlib.Data.List.Forall2

/-!
What typed forms take from written text.

A form takes a value as `x` when it gives `x` for every way the value is written, with blanks in
front of it and whatever follows it (`Form.Takes`). There is one lemma for each form: a form takes a
list when it takes its items, and a record when its members, in the order in which they are written,
fill slots that are free and leave no required one open (`takes_record`). Main statement: a form
takes from a whole text what it takes from the value written in it (`parse_of_takes`).
-/

namespace GivenNames.Json.Form

variable {α β : Type} {n : Nat} {v : Json}

/-- The form takes the value as `x`, however the value is written. -/
def Takes (form : Form α) (n : Nat) (v : Json) (x : α) : Prop :=
  ∀ ⦃b cs rest : List Char⦄, Blank b → Written n (.value v) cs → Detached rest →
    form.read n (b ++ (cs ++ rest)) = .ok (x, rest)

/-! ### Scalars -/

theorem takes_value : value.Takes n v v.sorted := by
  intro b cs rest blank written apart
  exact (readValue_blank blank n _).trans (written.reads rest apart)

theorem takes_string {s : String} : string.Takes n (.string s) s := by
  intro b cs rest blank written apart
  cases written
  simp only [string, skipSpace_append blank, stringChars, List.cons_append]
  rw [skipSpace_cons (by decide)]
  simp [readString_escaped, Except.map]

theorem takes_integer {lo hi k : Int} (least : lo ≤ k) (greatest : k ≤ hi) (expected : Expected) :
    (integer lo hi expected).Takes n (.int k) k := by
  intro b cs rest blank written apart
  cases written with
  | int word =>
      by_cases negative : k < 0
      · have read := readNumber_negative word negative apart
        simp only [integer, skipSpace_append blank, Integer.chars, if_pos negative,
          List.cons_append]
        rw [skipSpace_cons (by decide)]
        simp [read, least, greatest]
      · have read := readNumber_natural word negative apart
        obtain ⟨d, ds, chars, digit⟩ := Integer.natChars_head k.natAbs
        have solid := isSpace_of_isDigit digit
        simp only [integer, skipSpace_append blank, Integer.chars, if_neg negative]
        rw [chars, List.cons_append] at read ⊢
        rw [skipSpace_cons solid]
        split
        · rename_i same
          obtain ⟨rfl, _⟩ := List.cons.inj same
          contradiction
        · rename_i same
          obtain ⟨rfl, rfl⟩ := List.cons.inj same
          simp [digit, read, least, greatest]
        · contradiction

/-! ### Functions and checks -/

theorem Takes.map {form : Form α} {x : α} (takes : form.Takes n v x) (f : α → β) :
    (form.map f).Takes n v (f x) := by
  intro b cs rest blank written apart
  simp only [Form.map, takes blank written apart, Except.map]

theorem Takes.checked {form : Form α} {x : α} (takes : form.Takes n v x)
    {check : α → Except String β} {y : β} (passes : check x = .ok y) :
    (form.checked check).Takes n v y := by
  intro b cs rest blank written apart
  simp only [Form.checked, takes blank written apart, passes]

/-! ### Lists -/

theorem readItems_takes {form : Form α} {vs : List Json} {xs : List α}
    (items : List.Forall₂ (form.Takes n) vs xs) {first : Bool} {cs : List Char}
    (written : Written n (.items first vs) cs) (rest : List Char) {fuel : Nat}
    (enough : cs.length ≤ fuel) :
    ∃ b, Blank b ∧ readItems (form.read n) fuel first (cs ++ rest) = .ok (xs, b ++ ']' :: rest) := by
  induction items generalizing first cs fuel with
  | nil =>
      cases written with
      | @noItem _ _ b blank => exact ⟨b, blank, readItems_end blank rest enough⟩
  | @cons v x vs xs takes items ih =>
      cases written with
      | @item _ _ _ _ l cs ds lead value others =>
          have taken := takes blank_nil value (others.detached_items rest)
          obtain ⟨left, enough, round⟩ := readItems_item lead value taken enough
          obtain ⟨b, blank, more⟩ := ih others enough
          refine ⟨b, blank, round.trans ?_⟩
          rw [more]
          rfl

theorem length_le_itemFuel (cs rest : List Char) : cs.length ≤ itemFuel (cs ++ rest) := by
  rw [itemFuel, List.length_append]
  omega

theorem takes_list {form : Form α} {vs : List Json} {xs : List α}
    (items : List.Forall₂ (form.Takes n) vs xs) : form.list.Takes (n + 1) (.array vs) xs := by
  intro b cs rest blank written apart
  cases written with
  | @array _ _ cs inside =>
      obtain ⟨b', blank', read⟩ := readItems_takes items inside rest (length_le_itemFuel cs rest)
      simp only [list, skipSpace_append blank, List.cons_append]
      rw [skipSpace_cons (by decide)]
      simp only [read, closeArray_append blank', Except.map]

/-! ### Records -/

/-- The filling that members lead to, one after another: each is for a slot that is still free, and
the form of the slot takes its value. -/
inductive Fills (slots : List (Slot α)) (n : Nat) :
    Filling α → List (String × Json) → Filling α → Prop
  | done {filling : Filling α} : Fills slots n filling [] filling
  | member {filling filled : Filling α} {key : String} {v : Json} {ms : List (String × Json)}
      {slot : Slot α} {put : α → α} (found : slots.find? (·.isFor key) = some slot)
      (free : filling.has slot = false) (takes : slot.form.Takes n v put)
      (others : Fills slots n (filling.fill slot put) ms filled) :
      Fills slots n filling ((key, v) :: ms) filled

/-- A member for a slot that puts the value of a form into the record. -/
theorem Fills.put {slots : List (Slot α)} {filling filled : Filling α} {key name : String}
    {aliases : List String} {required : Bool} {form : Form β} {put : β → α → α} {x : β}
    {ms : List (String × Json)}
    (found : slots.find? (·.isFor key) = some (.of name aliases required form put))
    (free : filling.has (.of name aliases required form put) = false) (takes : form.Takes n v x)
    (others : Fills slots n (filling.fill (.of name aliases required form put) (put x)) ms filled) :
    Fills slots n filling ((key, v) :: ms) filled :=
  .member found free (takes.map put) others

theorem readMember_takes {slots : List (Slot α)} {filling : Filling α} {key : String}
    {slot : Slot α} {put : α → α} (found : slots.find? (·.isFor key) = some slot)
    (free : filling.has slot = false) (takes : slot.form.Takes n v put) {b b' cs rest : List Char}
    (blank : Blank b) (blank' : Blank b') (written : Written n (.value v) cs)
    (apart : Detached rest) :
    filling.readMember slots n key (b ++ ':' :: (b' ++ (cs ++ rest))) =
      .ok (filling.fill slot put, rest) := by
  simp only [Filling.readMember, found, free, readColon_append blank,
    takes blank' written apart, Except.map]
  rfl

theorem readMembers_takes {slots : List (Slot α)} {filling filled : Filling α}
    {ms : List (String × Json)} (fills : Fills slots n filling ms filled) {first : Bool}
    {cs : List Char} (written : Written n (.members first ms) cs) (rest : List Char) {fuel : Nat}
    (enough : cs.length ≤ fuel) :
    ∃ b, Blank b ∧ readMembers (Filling.readMember slots n) fuel first filling (cs ++ rest) =
      .ok (filled, b ++ '\x7d' :: rest) := by
  induction fills generalizing first cs fuel with
  | done =>
      cases written with
      | @noMember _ _ b blank => exact ⟨b, blank, readMembers_end blank _ rest enough⟩
  | member found free takes others ih =>
      cases written with
      | @member _ _ _ _ _ l b b' cs ds lead blank blank' value more =>
          have taken := readMember_takes found free takes blank blank' value
            (more.detached_members rest)
          obtain ⟨left, enough, round⟩ := readMembers_member lead taken enough
          obtain ⟨b'', blank'', after⟩ := ih more enough
          exact ⟨b'', blank'', round.trans after⟩

/-- A record takes an object whose members are read into a filling that leaves no required slot
open. -/
theorem takes_object {name : String} {slots : List (Slot α)} {blank : α}
    {ms : List (String × Json)} {filled : Filling α}
    (reads : ∀ {cs rest : List Char}, Written n (.members true ms) cs → ∃ b, Blank b ∧
      readMembers (Filling.readMember slots n) (itemFuel (cs ++ rest)) true ⟨blank, []⟩
        (cs ++ rest) = .ok (filled, b ++ '\x7d' :: rest))
    (complete : filled.missing? slots = none) :
    (record name slots blank).Takes (n + 1) (.object ms) filled.record := by
  intro b cs rest space written apart
  cases written with
  | @object _ _ cs inside =>
      obtain ⟨b', space', read⟩ := @reads cs rest inside
      simp only [record, skipSpace_append space, List.cons_append]
      rw [skipSpace_cons (by decide)]
      simp only [readMemberRecord, read, complete, closeObject_append space', Except.map]

/-- A record takes an object whose members fill its slots and leave no required one open. -/
theorem takes_record {name : String} {slots : List (Slot α)} {blank : α}
    {ms : List (String × Json)} (filled : Filling α) (fills : Fills slots n ⟨blank, []⟩ ms filled)
    (complete : filled.missing? slots = none) :
    (record name slots blank).Takes (n + 1) (.object ms) filled.record :=
  takes_object (fun inside => readMembers_takes fills inside _ (length_le_itemFuel _ _)) complete

/-! ### Whole texts -/

/-- From a text that is a written value, with blanks before and after it, a form takes what it takes
from the value. -/
theorem parse_of_takes {form : Form α} {x : α} (takes : form.Takes maxNesting v x)
    {b cs b' : List Char} (blank : Blank b) (written : Written maxNesting (.value v) cs)
    (blank' : Blank b') : form.parse (String.ofList (b ++ cs ++ b')) = .ok x := by
  have apart : Detached b' := by simpa using blank'.detached detached_nil
  rw [parse, String.toList_ofList, List.append_assoc, takes blank written apart, finish,
    blank'.skipSpace]
  rfl

end GivenNames.Json.Form
