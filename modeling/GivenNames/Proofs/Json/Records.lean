import GivenNames.Proofs.Json.Members
import GivenNames.Proofs.Json.Skipped

/-!
Records in all the ways they are written.

An object may have members that no slot of a record knows; they are passed over, whatever their
values are. A record may also be written as an array, with a value for each of its slots in order.
Main statements: the members that are known make the record, in whatever order they stand and
whatever stands between them (`takes_record_among`), and entries for all slots in order make it
without their keys (`takes_record_of_items`).
-/

namespace GivenNames.Json.Form

variable {α : Type} {n : Nat} {name : String} {slots : List (Slot α)} {blank x : α}

open Entry

/-! ### Objects -/

/-- Whether a slot knows the key of a member. -/
def knows (slots : List (Slot α)) (m : String × Json) : Bool :=
  (slots.find? (·.isFor m.1)).isSome

/-- A member that no slot knows is passed over. -/
theorem readMember_unknown {filling : Filling α} {key : String} {v : Json}
    (unknown : knows slots (key, v) = false) {b b' cs rest : List Char} (blank : Blank b)
    (blank' : Blank b') (written : Written n (.value v) cs) (apart : Detached rest) :
    filling.readMember slots n key (b ++ ':' :: (b' ++ (cs ++ rest))) = .ok (filling, rest) := by
  have none : slots.find? (·.isFor key) = none := by simpa [knows] using unknown
  simp only [Filling.readMember, none, readColon_append blank,
    skipValue_written blank' written apart, Except.map]

theorem readMembers_among {filling filled : Filling α} {ms : List (String × Json)}
    (fills : Fills slots n filling (ms.filter (knows slots)) filled) {first : Bool}
    {cs : List Char} (written : Written n (.members first ms) cs) (rest : List Char) {fuel : Nat}
    (enough : cs.length ≤ fuel) :
    ∃ b, Blank b ∧ readMembers (Filling.readMember slots n) fuel first filling (cs ++ rest) =
      .ok (filled, b ++ '\x7d' :: rest) := by
  induction ms generalizing filling first cs fuel with
  | nil => exact readMembers_takes fills written rest enough
  | cons m ms ih =>
      cases written with
      | @member _ _ _ _ _ l b b' cs ds lead space space' value more =>
          have apart := more.detached_members rest
          -- The member is taken or passed over; either way the others fill what is left.
          obtain ⟨next, taken, others⟩ : ∃ next,
              filling.readMember slots n _ (b ++ ':' :: (b' ++ (cs ++ (ds ++ rest)))) =
                .ok (next, ds ++ rest) ∧ Fills slots n next (ms.filter (knows slots)) filled := by
            cases known : knows slots _ with
            | false =>
                rw [List.filter_cons_of_neg (by simpa using known)] at fills
                exact ⟨filling, readMember_unknown known space space' value apart, fills⟩
            | true =>
                rw [List.filter_cons_of_pos known] at fills
                cases fills with
                | member found free takes others =>
                    exact ⟨_, readMember_takes found free takes space space' value apart, others⟩
          obtain ⟨left, enough, round⟩ := readMembers_member lead taken enough
          obtain ⟨b'', space'', after⟩ := ih others more enough
          exact ⟨b'', space'', round.trans after⟩

/-- A record takes an object whose members, unknown ones aside, are complete entries, in whatever
order they stand. -/
theorem takes_record_among {ms : List (String × Json)} (es : List (Entry slots))
    (complete : Complete es) (apart : Apart es)
    (takes : ∀ e ∈ es, e.slot.form.Takes n e.value e.put)
    (order : (ms.filter (knows slots)).Perm (es.map member)) (made : putAll es blank = x) :
    (record name slots blank).Takes (n + 1) (.object ms) x := by
  obtain ⟨filled, fills, whole, rfl⟩ := fills_of_perm es complete apart takes order made
  exact takes_object (fun inside => readMembers_among fills inside _ (length_le_itemFuel _ _)) whole

/-! ### Arrays -/

theorem readSlots_items (name : String) (fields : Nat) {es : List (Entry slots)}
    (takes : ∀ e ∈ es, e.slot.form.Takes n e.value e.put) {first : Bool} {cs : List Char}
    (written : Written n (.items first (es.map Entry.value)) cs) (rest : List Char) (count : Nat)
    (record : α) :
    ∃ b, Blank b ∧
      readSlots name fields n (es.map Entry.slot) first count record (cs ++ rest) =
        .ok (putAll es record, b ++ ']' :: rest) := by
  induction es generalizing first cs count record with
  | nil =>
      cases written with
      | @noItem _ _ b space => exact ⟨b, space, by rw [List.append_assoc]; rfl⟩
  | cons e es ih =>
      rw [List.map_cons] at written
      cases written with
      | @item _ _ _ _ l cs ds lead value others =>
          have taken := takes e List.mem_cons_self blank_nil value (others.detached_items rest)
          obtain ⟨b, space, more⟩ := ih (fun e' here => takes e' (List.mem_cons_of_mem e here))
            others (count + 1) (e.put record)
          refine ⟨b, space, ?_⟩
          rw [List.append_assoc, List.append_assoc, List.map_cons, readSlots,
            nextItem_value lead value]
          rw [List.nil_append] at taken
          simp only [taken, more]
          rfl

/-- A record takes an array of values for all of its slots, in order. -/
theorem takes_record_of_items (es : List (Entry slots)) (inOrder : es.map Entry.slot = slots)
    (takes : ∀ e ∈ es, e.slot.form.Takes n e.value e.put) (made : putAll es blank = x) :
    (record name slots blank).Takes (n + 1) (.array (es.map Entry.value)) x := by
  intro b cs rest space written apart
  cases written with
  | @array _ _ cs inside =>
      obtain ⟨b', space', read⟩ := readSlots_items name slots.length takes inside rest 0 blank
      rw [inOrder, made] at read
      simp only [record, skipSpace_append space, List.cons_append]
      rw [skipSpace_cons (by decide)]
      simp only [readItemRecord, read, closeArray_append space', Except.map]

end GivenNames.Json.Form
