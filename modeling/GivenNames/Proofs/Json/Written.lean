import GivenNames.Proofs.Json.Tokens

/-!
Written values read back.

`Written n piece cs` says that the characters `cs` are a value, or the rest of an array or an object
up to its closing bracket, with blanks anywhere between the tokens and at most `n` arrays and
objects opened around any value. Main statements: whatever is written reads back, with the members
of every object in key order (`Written.reads`), and a whole text gives its value
(`parse_of_written`).
-/

namespace GivenNames.Json

/-! ### What is written -/

/-- What a stretch of text stands for: a value, or the items or members that an array or an object
still has, with its closing bracket. The flag says whether the next one is the first. -/
inductive Piece where
  | value (v : Json)
  | items (first : Bool) (vs : List Json)
  | members (first : Bool) (ms : List (String × Json))

/-- What stands in front of an item or a member: a comma unless it is the first one, and blanks. -/
inductive Lead : Bool → List Char → Prop
  | first {b : List Char} (blank : Blank b) : Lead true b
  | next {b b' : List Char} (blank : Blank b) (blank' : Blank b') : Lead false (b ++ ',' :: b')

/-- The integers that words of 64 bits hold, signed or unsigned. -/
def IsWord (k : Int) : Prop :=
  -0x8000000000000000 ≤ k ∧ k ≤ 0xffffffffffffffff

instance (k : Int) : Decidable (IsWord k) :=
  inferInstanceAs (Decidable (_ ∧ _))

/-- The characters of a piece, in which at most so many arrays and objects may be opened. -/
inductive Written : Nat → Piece → List Char → Prop
  | null {n : Nat} : Written n (.value .null) (chars .null)
  | bool {n : Nat} (x : Bool) : Written n (.value (.bool x)) (chars (.bool x))
  | int {n : Nat} {k : Int} (word : IsWord k) : Written n (.value (.int k)) (Integer.chars k)
  | string {n : Nat} (s : String) : Written n (.value (.string s)) (stringChars s)
  | array {n : Nat} {vs : List Json} {cs : List Char} (items : Written n (.items true vs) cs) :
      Written (n + 1) (.value (.array vs)) ('[' :: cs)
  | object {n : Nat} {ms : List (String × Json)} {cs : List Char}
      (members : Written n (.members true ms) cs) :
      Written (n + 1) (.value (.object ms)) ('\x7b' :: cs)
  | noItem {n : Nat} {first : Bool} {b : List Char} (blank : Blank b) :
      Written n (.items first []) (b ++ [']'])
  | item {n : Nat} {first : Bool} {v : Json} {vs : List Json} {l cs ds : List Char}
      (lead : Lead first l) (value : Written n (.value v) cs)
      (items : Written n (.items false vs) ds) : Written n (.items first (v :: vs)) (l ++ cs ++ ds)
  | noMember {n : Nat} {first : Bool} {b : List Char} (blank : Blank b) :
      Written n (.members first []) (b ++ ['\x7d'])
  | member {n : Nat} {first : Bool} {key : String} {v : Json} {ms : List (String × Json)}
      {l b b' cs ds : List Char} (lead : Lead first l) (blank : Blank b) (blank' : Blank b')
      (value : Written n (.value v) cs) (members : Written n (.members false ms) ds) :
      Written n (.members first ((key, v) :: ms))
        (l ++ stringChars key ++ b ++ ':' :: b' ++ cs ++ ds)

/-! ### How text begins -/

theorem isSpace_of_isDigit {c : Char} (digit : c.isDigit = true) : isSpace c = false := by
  refine Bool.eq_false_iff.mpr fun space => ?_
  simp only [isSpace, Bool.or_eq_true, beq_iff_eq] at space
  rcases space with ((rfl | rfl) | rfl) | rfl <;> contradiction

/-- A value begins with a character that ends neither blanks nor an array. -/
theorem Written.head {n : Nat} {v : Json} {cs : List Char} (written : Written n (.value v) cs) :
    ∃ c t, cs = c :: t ∧ isSpace c = false ∧ c ≠ ']' := by
  cases written with
  | null => exact ⟨_, _, rfl, by decide⟩
  | bool x => cases x <;> exact ⟨_, _, rfl, by decide⟩
  | @int _ k _ =>
      by_cases negative : k < 0
      · exact ⟨_, _, if_pos negative, by decide⟩
      · obtain ⟨d, ds, chars, digit⟩ := Integer.natChars_head k.natAbs
        exact ⟨d, ds, (if_neg negative).trans chars, isSpace_of_isDigit digit,
          by rintro rfl; contradiction⟩
  | string s => exact ⟨_, _, rfl, by decide⟩
  | array items => exact ⟨_, _, rfl, by decide⟩
  | object members => exact ⟨_, _, rfl, by decide⟩

theorem Written.length_pos {n : Nat} {v : Json} {cs : List Char}
    (written : Written n (.value v) cs) : 0 < cs.length := by
  obtain ⟨c, t, rfl, -⟩ := written.head
  exact Nat.succ_pos t.length

theorem Lead.detached {l : List Char} (lead : Lead false l) (rest : List Char) :
    Detached (l ++ rest) := by
  cases lead with
  | next blank _ =>
      rw [List.append_assoc]
      exact blank.detached (detached_cons (by decide) _)

theorem Written.detached_items {n : Nat} {vs : List Json} {cs : List Char}
    (written : Written n (.items false vs) cs) (rest : List Char) : Detached (cs ++ rest) := by
  cases written with
  | noItem blank =>
      rw [List.append_assoc]
      exact blank.detached (detached_cons (by decide) _)
  | item lead value items =>
      rw [List.append_assoc, List.append_assoc]
      exact lead.detached _

theorem Written.detached_members {n : Nat} {ms : List (String × Json)} {cs : List Char}
    (written : Written n (.members false ms) cs) (rest : List Char) : Detached (cs ++ rest) := by
  cases written with
  | noMember blank =>
      rw [List.append_assoc]
      exact blank.detached (detached_cons (by decide) _)
  | member lead blank blank' value members =>
      simp only [List.append_assoc]
      exact lead.detached _

/-! ### Reading scalars -/

theorem readValue_digit {d : Char} (digit : d.isDigit = true) (n : Nat) (ds : List Char) :
    readValue n (d :: ds) = readNumber false (d :: ds) := by
  rw [readValue.eq_def, skipSpace_cons (isSpace_of_isDigit digit)]
  split
  · contradiction
  all_goals rename_i same; obtain ⟨rfl, rfl⟩ := List.cons.inj same
  all_goals first | contradiction | exact if_pos digit

theorem readNumber_negative {k : Int} (word : IsWord k) (negative : k < 0) {rest : List Char}
    (apart : Detached rest) :
    readNumber true (Integer.natChars k.natAbs ++ rest) = .ok (.int k, rest) := by
  obtain ⟨least, greatest⟩ := word
  have fits : k.natAbs ≤ maxSignificand := by simp only [maxSignificand]; omega
  have back : -(k.natAbs : Int) = k := by omega
  have small : ¬(k.natAbs = 0 || 0x8000000000000000 < k.natAbs) = true := by
    simp only [Bool.or_eq_true, decide_eq_true_eq]
    omega
  rw [readNumber_natChars fits true apart, finishInteger, if_neg (by decide), if_neg small, back]

theorem readNumber_natural {k : Int} (word : IsWord k) (natural : ¬k < 0) {rest : List Char}
    (apart : Detached rest) :
    readNumber false (Integer.natChars k.natAbs ++ rest) = .ok (.int k, rest) := by
  obtain ⟨least, greatest⟩ := word
  have fits : k.natAbs ≤ maxSignificand := by simp only [maxSignificand]; omega
  have back : (k.natAbs : Int) = k := by omega
  rw [readNumber_natChars fits false apart, finishInteger, if_pos (by decide), back]

theorem readValue_int {n : Nat} {k : Int} (word : IsWord k) {rest : List Char}
    (apart : Detached rest) :
    readValue n (Integer.chars k ++ rest) = .ok (.int k, rest) := by
  by_cases negative : k < 0
  · rw [Integer.chars, if_pos negative, List.cons_append, readValue.eq_def,
      skipSpace_cons (by decide)]
    exact readNumber_negative word negative apart
  · have read := readNumber_natural word negative apart
    rw [Integer.chars, if_neg negative]
    obtain ⟨d, ds, chars, digit⟩ := Integer.natChars_head k.natAbs
    rw [chars, List.cons_append] at read ⊢
    exact (readValue_digit digit n _).trans read

theorem readValue_string (n : Nat) (s : String) (rest : List Char) :
    readValue n (stringChars s ++ rest) = .ok (.string s, rest) := by
  have read := readString_escaped s.toList rest
  rw [stringChars, List.cons_append, List.append_assoc, readValue.eq_def,
    skipSpace_cons (by decide)]
  simp only [List.cons_append, List.nil_append, read, Except.map, String.ofList_toList]

/-! ### Reading arrays and objects -/

theorem nextItem_lead {first : Bool} {l : List Char} (lead : Lead first l) {c : Char}
    (solid : isSpace c = false) (going : c ≠ ']') (rest : List Char) :
    nextItem first (l ++ c :: rest) = .ok (some (c :: rest)) := by
  cases lead with
  | first blank =>
      rw [nextItem, skipSpace_append blank, skipSpace_cons solid]
      simp
  | next blank blank' =>
      rw [List.append_assoc, nextItem, skipSpace_append blank, List.cons_append,
        skipSpace_cons (by decide)]
      simp [skipSpace_append blank', skipSpace_cons solid, going]

theorem nextItem_value {first : Bool} {l cs : List Char} (lead : Lead first l) {n : Nat} {v : Json}
    (value : Written n (.value v) cs) (rest : List Char) :
    nextItem first (l ++ (cs ++ rest)) = .ok (some (cs ++ rest)) := by
  obtain ⟨c, t, rfl, solid, going⟩ := value.head
  exact nextItem_lead lead solid going (t ++ rest)

theorem nextItem_end {b : List Char} (blank : Blank b) (first : Bool) (rest : List Char) :
    nextItem first (b ++ ']' :: rest) = .ok none := by
  rw [nextItem, skipSpace_append blank, skipSpace_cons (by decide)]
  rfl

theorem nextKey_lead {first : Bool} {l : List Char} (lead : Lead first l) (key : String)
    (rest : List Char) : nextKey first (l ++ stringChars key ++ rest) = .ok (some (key, rest)) := by
  have read := readString_escaped key.toList rest
  cases lead with
  | first blank =>
      rw [List.append_assoc, nextKey, skipSpace_append blank, stringChars, List.cons_append,
        skipSpace_cons (by decide)]
      simp [read, Except.map]
  | next blank blank' =>
      rw [List.append_assoc, List.append_assoc, nextKey, skipSpace_append blank, List.cons_append,
        skipSpace_cons (by decide)]
      simp [skipSpace_append blank', stringChars, skipSpace_cons, isSpace, read, Except.map]

theorem nextKey_end {b : List Char} (blank : Blank b) (first : Bool) (rest : List Char) :
    nextKey first (b ++ '\x7d' :: rest) = .ok none := by
  rw [nextKey, skipSpace_append blank, skipSpace_cons (by decide)]
  rfl

/-! One round of the loops over items and members. Every round takes a character at least, so the
fuel left is enough for the others. -/

section Loops

variable {α σ : Type} {item : List Char → Step α} {member : σ → String → List Char → Step σ}
  {first : Bool} {n fuel : Nat} {v : Json} {l b b' cs ds rest : List Char}

theorem readItems_end (blank : Blank b) (rest : List Char) (enough : (b ++ [']']).length ≤ fuel) :
    readItems item fuel first (b ++ [']'] ++ rest) = .ok ([], b ++ ']' :: rest) := by
  obtain ⟨left, rfl⟩ : ∃ k, fuel = k + 1 := ⟨fuel - 1, by simp at enough; omega⟩
  rw [List.append_assoc, List.singleton_append]
  simp only [readItems, nextItem_end blank]

theorem readItems_item (lead : Lead first l) (value : Written n (.value v) cs) {x : α}
    (taken : item (cs ++ (ds ++ rest)) = .ok (x, ds ++ rest))
    (enough : (l ++ cs ++ ds).length ≤ fuel) :
    ∃ left, ds.length ≤ left ∧ readItems item fuel first (l ++ cs ++ ds ++ rest) =
      (readItems item left false (ds ++ rest)).map fun (xs, rest) => (x :: xs, rest) := by
  have character := value.length_pos
  simp only [List.length_append] at enough
  obtain ⟨left, rfl⟩ : ∃ k, fuel = k + 1 := ⟨fuel - 1, by omega⟩
  refine ⟨left, by omega, ?_⟩
  rw [List.append_assoc, List.append_assoc]
  simp only [readItems, nextItem_value lead value, taken]

/-- An item that is not taken ends the loop. -/
theorem readItems_refused (lead : Lead first l) (value : Written n (.value v) cs) {f : Failure}
    (refused : item (cs ++ (ds ++ rest)) = .error f) (enough : (l ++ cs ++ ds).length ≤ fuel) :
    readItems item fuel first (l ++ cs ++ ds ++ rest) = .error f := by
  have character := value.length_pos
  simp only [List.length_append] at enough
  obtain ⟨left, rfl⟩ : ∃ k, fuel = k + 1 := ⟨fuel - 1, by omega⟩
  rw [List.append_assoc, List.append_assoc]
  simp only [readItems, nextItem_value lead value, refused]

theorem readMembers_end (blank : Blank b) (gathered : σ) (rest : List Char)
    (enough : (b ++ ['\x7d']).length ≤ fuel) :
    readMembers member fuel first gathered (b ++ ['\x7d'] ++ rest) =
      .ok (gathered, b ++ '\x7d' :: rest) := by
  obtain ⟨left, rfl⟩ : ∃ k, fuel = k + 1 := ⟨fuel - 1, by simp at enough; omega⟩
  rw [List.append_assoc, List.singleton_append]
  simp only [readMembers, nextKey_end blank]

theorem readMembers_member (lead : Lead first l) {key : String} {gathered gathered' : σ}
    (taken : member gathered key (b ++ ':' :: (b' ++ (cs ++ (ds ++ rest)))) =
      .ok (gathered', ds ++ rest))
    (enough : (l ++ stringChars key ++ b ++ ':' :: b' ++ cs ++ ds).length ≤ fuel) :
    ∃ left, ds.length ≤ left ∧
      readMembers member fuel first gathered
          (l ++ stringChars key ++ b ++ ':' :: b' ++ cs ++ ds ++ rest) =
        readMembers member left false gathered' (ds ++ rest) := by
  simp only [List.length_append, List.length_cons] at enough
  obtain ⟨left, rfl⟩ : ∃ k, fuel = k + 1 := ⟨fuel - 1, by omega⟩
  refine ⟨left, by omega, ?_⟩
  have next := nextKey_lead lead key (b ++ ':' :: (b' ++ (cs ++ (ds ++ rest))))
  simp only [List.append_assoc, List.cons_append] at next ⊢
  simp only [readMembers, next, taken]

end Loops

theorem readColon_append {b : List Char} (blank : Blank b) (rest : List Char) :
    readColon (b ++ ':' :: rest) = .ok rest := by
  rw [readColon, skipSpace_append blank, skipSpace_cons (by decide)]
  rfl

theorem closeArray_append {b : List Char} (blank : Blank b) (rest : List Char) :
    closeArray (b ++ ']' :: rest) = .ok rest := by
  rw [closeArray, skipSpace_append blank, skipSpace_cons (by decide)]
  rfl

theorem closeObject_append {b : List Char} (blank : Blank b) (rest : List Char) :
    closeObject (b ++ '\x7d' :: rest) = .ok rest := by
  rw [closeObject, skipSpace_append blank, skipSpace_cons (by decide)]
  rfl

/-- Reads a member of an object, after its key, into the members gathered before it: the step of the
loop that `readValue` runs on an object. -/
def readMember (n : Nat) (gathered : List (String × Json)) (key : String) (rest : List Char) :
    Step (List (String × Json)) :=
  match readColon rest with
  | .error f => .error f
  | .ok rest => (readValue n rest).map fun (value, rest) => (setMember key value gathered, rest)

theorem readValue_blank {b : List Char} (blank : Blank b) (n : Nat) (rest : List Char) :
    readValue n (b ++ rest) = readValue n rest := by
  rw [readValue.eq_def, skipSpace_append blank, ← readValue.eq_def]

theorem readMember_value {n : Nat} {b b' : List Char} (blank : Blank b) (blank' : Blank b')
    {cs rest : List Char} {v : Json} (value : readValue n cs = .ok (v, rest))
    (gathered : List (String × Json)) (key : String) :
    readMember n gathered key (b ++ ':' :: (b' ++ cs)) = .ok (setMember key v gathered, rest) := by
  rw [readMember, readColon_append blank]
  simp only [readValue_blank blank', value, Except.map]

theorem readValue_array {n : Nat} {cs b rest : List Char} {vs : List Json}
    (items : readItems (readValue n) (itemFuel cs) true cs = .ok (vs, b ++ ']' :: rest))
    (blank : Blank b) : readValue (n + 1) ('[' :: cs) = .ok (.array vs, rest) := by
  rw [readValue.eq_def, skipSpace_cons (by decide)]
  simp only [items, closeArray_append blank, Except.map]

theorem readValue_brace (n : Nat) (cs : List Char) :
    readValue (n + 1) ('\x7b' :: cs) =
      match readMembers (readMember n) (itemFuel cs) true [] cs with
      | .error f => .error f
      | .ok (members, rest) => (closeObject rest).map fun rest => (.object members, rest) := by
  rw [readValue.eq_def, skipSpace_cons (by decide)]
  rfl

theorem readValue_object {n : Nat} {cs b rest : List Char} {ms : List (String × Json)}
    (members : readMembers (readMember n) (itemFuel cs) true [] cs = .ok (ms, b ++ '\x7d' :: rest))
    (blank : Blank b) : readValue (n + 1) ('\x7b' :: cs) = .ok (.object ms, rest) := by
  rw [readValue_brace, members]
  simp only [closeObject_append blank, Except.map]

/-! ### Whatever is written reads back -/

/-- How the characters of a piece are read, whatever follows them. -/
def Reads (n : Nat) : Piece → List Char → Prop
  | .value v, cs => ∀ rest, Detached rest → readValue n (cs ++ rest) = .ok (v.sorted, rest)
  | .items first vs, cs => ∀ rest fuel, cs.length ≤ fuel → ∃ b, Blank b ∧
      readItems (readValue n) fuel first (cs ++ rest) = .ok (sortedItems vs, b ++ ']' :: rest)
  | .members first ms, cs => ∀ rest fuel gathered, cs.length ≤ fuel → ∃ b, Blank b ∧
      readMembers (readMember n) fuel first gathered (cs ++ rest) =
        .ok (sortedMembers ms gathered, b ++ '\x7d' :: rest)

/-- Whatever is written reads back, with the members of objects in key order. -/
theorem Written.reads {n : Nat} {piece : Piece} {cs : List Char} (written : Written n piece cs) :
    Reads n piece cs := by
  induction written with
  | null =>
      intro rest _
      rw [readValue.eq_def]
      rfl
  | bool x =>
      intro rest _
      rw [readValue.eq_def]
      cases x <;> rfl
  | int word => exact fun rest apart => readValue_int word apart
  | @string n s => exact fun rest _ => readValue_string n s rest
  | @array n vs cs items ih =>
      intro rest _
      obtain ⟨b, blank, read⟩ := ih rest (itemFuel (cs ++ rest)) (by simp [itemFuel]; omega)
      exact readValue_array read blank
  | @object n ms cs members ih =>
      intro rest _
      obtain ⟨b, blank, read⟩ := ih rest (itemFuel (cs ++ rest)) [] (by simp [itemFuel]; omega)
      exact readValue_object read blank
  | @noItem n first b blank =>
      intro rest fuel enough
      exact ⟨b, blank, readItems_end blank rest enough⟩
  | @item n first v vs l cs ds lead value items ihValue ihItems =>
      intro rest fuel enough
      have taken := ihValue (ds ++ rest) (items.detached_items rest)
      obtain ⟨left, enough, round⟩ := readItems_item lead value taken enough
      obtain ⟨b, blank, others⟩ := ihItems rest left enough
      refine ⟨b, blank, round.trans ?_⟩
      rw [others]
      rfl
  | @noMember n first b blank =>
      intro rest fuel gathered enough
      exact ⟨b, blank, readMembers_end blank gathered rest enough⟩
  | @member n first key v ms l b b' cs ds lead blank blank' value members ihValue ihMembers =>
      intro rest fuel gathered enough
      have read := ihValue (ds ++ rest) (members.detached_members rest)
      have taken := readMember_value blank blank' read gathered key
      obtain ⟨left, enough, round⟩ := readMembers_member lead taken enough
      obtain ⟨b'', blank'', others⟩ := ihMembers rest left (setMember key v.sorted gathered) enough
      exact ⟨b'', blank'', round.trans others⟩

/-- The text is the value, written in one of the ways it can be: with blanks before, after and
anywhere between its tokens. -/
def Spells (text : String) (v : Json) : Prop :=
  ∃ b cs b' : List Char, Blank b ∧ Written maxNesting (.value v) cs ∧ Blank b' ∧
    text = String.ofList (b ++ cs ++ b')

/-- A whole text that is a written value, with blanks before and after it, is read as that value
with the members of its objects in key order. -/
theorem parse_of_written {v : Json} {b cs b' : List Char} (blank : Blank b)
    (written : Written maxNesting (.value v) cs) (blank' : Blank b') :
    parse (String.ofList (b ++ cs ++ b')) = .ok v.sorted := by
  have apart : Detached b' := by simpa using blank'.detached detached_nil
  have read := written.reads b' apart
  rw [parse, String.toList_ofList, List.append_assoc, readValue_blank blank, read, finish,
    blank'.skipSpace]
  rfl

end GivenNames.Json
