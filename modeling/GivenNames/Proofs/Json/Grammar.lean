import GivenNames.Proofs.Json.Numerals

/-!
The grammar of JSON texts without blanks, and the printed values in it.

A string holds characters from the space on, or escapes; arrays and objects hold values with commas
between them. Main statements: every printed value is a text of the grammar, numbers of any kind
included (`value_chars`), and such a text holds no character below the space (`Value.printable`).
-/

namespace GivenNames.Json.Grammar

/-! ### Strings and values -/

/-- The letters that may follow the backslash of an escape. -/
def escapeLetters : List Char :=
  ['"', '\\', '/', 'b', 'f', 'n', 'r', 't']

/-- The digits of a code unit. -/
def hexDigits : List Char :=
  ['0', '1', '2', '3', '4', '5', '6', '7', '8', '9', 'a', 'b', 'c', 'd', 'e', 'f',
    'A', 'B', 'C', 'D', 'E', 'F']

/-- What stands for one character, or for one half of a pair of surrogates, in a string. -/
inductive StringPart : List Char → Prop
  | plain {c : Char} (high : 0x20 ≤ c.toNat) (quote : c ≠ '"') (backslash : c ≠ '\\') :
      StringPart [c]
  | short {c : Char} (letter : c ∈ escapeLetters) : StringPart ['\\', c]
  | unit {a b c d : Char} (digits : ∀ h ∈ [a, b, c, d], h ∈ hexDigits) :
      StringPart ['\\', 'u', a, b, c, d]

/-- A string in its quotes. -/
inductive Str : List Char → Prop
  | mk {parts : List (List Char)} (escaped : ∀ part ∈ parts, StringPart part) :
      Str ('"' :: (parts.flatten ++ ['"']))

/-- A member of an object: a key, a colon and a value. -/
def member (m : List Char × List Char) : List Char :=
  m.1 ++ ':' :: m.2

/-- An object of members, in their order. -/
def object (members : List (List Char × List Char)) : List Char :=
  '\x7b' :: ([','].intercalate (members.map member) ++ ['\x7d'])

/-- A value. -/
inductive Value : List Char → Prop
  | null : Value ['n', 'u', 'l', 'l']
  | true : Value ['t', 'r', 'u', 'e']
  | false : Value ['f', 'a', 'l', 's', 'e']
  | number {cs : List Char} (numeral : Numeral cs) : Value cs
  | string {cs : List Char} (str : Str cs) : Value cs
  | array {items : List (List Char)} (values : ∀ item ∈ items, Value item) :
      Value ('[' :: ([','].intercalate items ++ [']']))
  | object {members : List (List Char × List Char)} (keys : ∀ m ∈ members, Str m.1)
      (values : ∀ m ∈ members, Value m.2) : Value (object members)

/-! ### No controls -/

/-- No character below the space. -/
def Printable (cs : List Char) : Prop :=
  ∀ c ∈ cs, 0x20 ≤ c.toNat

instance (cs : List Char) : Decidable (Printable cs) :=
  List.decidableBAll _ cs

theorem printable_append {cs ds : List Char} (left : Printable cs) (right : Printable ds) :
    Printable (cs ++ ds) := by
  intro c here
  rcases List.mem_append.mp here with inLeft | inRight
  · exact left c inLeft
  · exact right c inRight

theorem printable_cons {c : Char} {cs : List Char} (high : 0x20 ≤ c.toNat) (later : Printable cs) :
    Printable (c :: cs) := by
  have first : Printable [c] := by simpa [Printable] using high
  exact printable_append first later

theorem printable_intercalate {parts : List (List Char)} (all : ∀ part ∈ parts, Printable part) :
    Printable ([','].intercalate parts) := by
  induction parts with
  | nil => decide
  | cons part parts ih =>
      have first := all part List.mem_cons_self
      have later := ih fun other here => all other (List.mem_cons_of_mem part here)
      cases parts with
      | nil => simpa using first
      | cons next rest =>
          rw [List.intercalate_cons_cons]
          exact printable_append (printable_append first (by decide)) later

theorem Digits.printable {cs : List Char} (digits : Digits cs) : Printable cs := by
  intro c here
  have digit := digits.2 c here
  simp only [Char.isDigit, Bool.and_eq_true, decide_eq_true_eq] at digit
  have least : '0'.val.toNat ≤ c.val.toNat := UInt32.le_iff_toNat_le.mp digit.1
  exact Nat.le_trans (by decide) least

theorem Fraction.printable {cs : List Char} (fraction : Fraction cs) : Printable cs := by
  cases fraction with
  | absent => decide
  | point digits => exact printable_cons (by decide) digits.printable

theorem Exponent.printable {cs : List Char} (exponent : Exponent cs) : Printable cs := by
  cases exponent with
  | absent => decide
  | letter letter signed digits =>
      refine printable_cons ?_ (printable_append ?_ digits.printable)
      · rcases letter with rfl | rfl <;> decide
      · simp only [List.mem_cons, List.not_mem_nil, or_false] at signed
        rcases signed with rfl | rfl | rfl <;> decide

theorem Numeral.printable {cs : List Char} (numeral : Numeral cs) : Printable cs := by
  cases numeral with
  | mk signed integer fractional scaled =>
      refine printable_append (printable_append (printable_append ?_ integer.1.printable)
        fractional.printable) scaled.printable
      simp only [List.mem_cons, List.not_mem_nil, or_false] at signed
      rcases signed with rfl | rfl <;> decide

theorem StringPart.printable {cs : List Char} (part : StringPart cs) : Printable cs := by
  cases part with
  | plain high quote backslash => simpa [Printable] using high
  | short letter =>
      have letters : Printable escapeLetters := by decide
      exact printable_cons (by decide) (printable_cons (letters _ letter) (by decide))
  | unit digits =>
      have all : Printable hexDigits := by decide
      have opening : Printable ['\\', 'u'] := by decide
      exact printable_append opening fun h here => all h (digits h here)

theorem Str.printable {cs : List Char} (str : Str cs) : Printable cs := by
  cases str with
  | mk escaped =>
      refine printable_cons (by decide) (printable_append ?_ (by decide))
      intro c here
      obtain ⟨part, member, inside⟩ := List.mem_flatten.mp here
      exact (escaped part member).printable c inside

/-- A value of the grammar holds no character below the space. -/
theorem Value.printable {cs : List Char} (value : Value cs) : Printable cs := by
  induction value with
  | null => decide
  | true => decide
  | false => decide
  | number numeral => exact numeral.printable
  | string str => exact str.printable
  | array _ ih =>
      exact printable_cons (by decide)
        (printable_append (printable_intercalate ih) (by decide))
  | object keys _ ih =>
      refine printable_cons (by decide)
        (printable_append (printable_intercalate ?_) (by decide))
      intro part here
      obtain ⟨m, inside, rfl⟩ := List.mem_map.mp here
      exact printable_append (keys m inside).printable (printable_cons (by decide) (ih m inside))

/-! ### Printed values -/

theorem hexChar_mem : ∀ {n : Nat}, n < 16 → hexChar n ∈ hexDigits := by
  decide

theorem stringPart_escapeChar (c : Char) : StringPart (escapeChar c) := by
  unfold escapeChar
  split
  · exact .short (by decide)
  split
  · exact .short (by decide)
  split
  · exact .short (by decide)
  split
  · exact .short (by decide)
  split
  · exact .short (by decide)
  split
  · exact .short (by decide)
  split
  · exact .short (by decide)
  split
  · rename_i low
    have zero : '0' ∈ hexDigits := by decide
    exact .unit (by simp [zero, hexChar_mem (n := c.toNat / 16) (by omega),
      hexChar_mem (n := c.toNat % 16) (by omega)])
  · rename_i quote backslash _ _ _ _ _ high
    exact .plain (by omega) quote backslash

theorem str_stringChars (s : String) : Str (stringChars s) := by
  unfold stringChars
  rw [List.flatMap_def]
  refine .mk fun part here => ?_
  obtain ⟨c, _, rfl⟩ := List.mem_map.mp here
  exact stringPart_escapeChar c

theorem chars_append_moreItemChars (v : Json) (vs : List Json) :
    v.chars ++ moreItemChars vs = [','].intercalate ((v :: vs).map chars) := by
  induction vs generalizing v with
  | nil => simp [moreItemChars]
  | cons w vs ih => simp [moreItemChars, ih, List.intercalate_cons_cons]

theorem itemChars_eq_intercalate (vs : List Json) :
    itemChars vs = [','].intercalate (vs.map chars) := by
  cases vs with
  | nil => simp [itemChars]
  | cons v vs => exact chars_append_moreItemChars v vs

/-- The two texts of a member. -/
def memberTexts (m : String × Json) : List Char × List Char :=
  (stringChars m.1, m.2.chars)

theorem member_append_moreMemberChars (m : String × Json) (ms : List (String × Json)) :
    member (memberTexts m) ++ moreMemberChars ms =
      [','].intercalate (((m :: ms).map memberTexts).map member) := by
  induction ms generalizing m with
  | nil => simp [moreMemberChars]
  | cons o ms ih =>
      have later := ih o
      simp only [List.map_cons] at later ⊢
      rw [List.intercalate_cons_cons, ← later]
      simp [moreMemberChars, member, memberTexts]

theorem chars_object (ms : List (String × Json)) :
    (Json.object ms).chars = object (ms.map memberTexts) := by
  rw [chars, object]
  cases ms with
  | nil => simp [memberChars]
  | cons m ms =>
      rw [← member_append_moreMemberChars m ms]
      simp [memberChars, member, memberTexts]

mutual

/-- Every printed value is a text of the grammar. -/
theorem value_chars : (v : Json) → Value v.chars
  | .null => .null
  | .bool true => .true
  | .bool false => .false
  | .int n => .number (numeral_integer n)
  | .float x => .number (numeral_float x)
  | .string s => .string (str_stringChars s)
  | .array vs => by
      rw [chars, itemChars_eq_intercalate]
      refine .array fun item here => ?_
      obtain ⟨v, inside, rfl⟩ := List.mem_map.mp here
      exact value_items vs v inside
  | .object ms => by
      rw [chars_object]
      refine .object (fun m here => ?_) (fun m here => ?_)
      · obtain ⟨m, _, rfl⟩ := List.mem_map.mp here
        exact str_stringChars m.1
      · obtain ⟨m, inside, rfl⟩ := List.mem_map.mp here
        exact value_members ms m inside

theorem value_items : (vs : List Json) → ∀ v ∈ vs, Value v.chars
  | [], _, here => nomatch here
  | v :: vs, w, here => by
      rcases List.mem_cons.mp here with same | later
      · exact same ▸ value_chars v
      · exact value_items vs w later

theorem value_members : (ms : List (String × Json)) → ∀ m ∈ ms, Value m.2.chars
  | [], _, here => nomatch here
  | (key, v) :: ms, m, here => by
      rcases List.mem_cons.mp here with same | later
      · exact same ▸ value_chars v
      · exact value_members ms m later

end

end GivenNames.Json.Grammar
