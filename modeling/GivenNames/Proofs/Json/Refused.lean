import GivenNames.Proofs.Json.Records

/-!
What typed forms refuse in written text.

A form refuses a value for a cause when it fails with that cause at some point of the text, for
every way the value is written (`Form.Refuses`). Main statements: a list is refused for the first of
its items that is (`refuses_list`), a record for the first slot that must be filled and is not
(`refuses_record_among`), and a whole text for what the value written in it is refused for
(`parse_of_refuses`).
-/

namespace GivenNames.Json.Form

variable {α : Type} {n : Nat} {v : Json} {cause : Cause}

/-- The form fails on the value for the cause, however the value is written. -/
def Refuses (form : Form α) (n : Nat) (v : Json) (cause : Cause) : Prop :=
  ∀ ⦃b cs rest : List Char⦄, Blank b → Written n (.value v) cs → Detached rest →
    ∃ left, form.read n (b ++ (cs ++ rest)) = .error (.placed cause left)

/-! ### Lists -/

theorem readItems_refuses {form : Form α} {vs vs' : List Json} {xs : List α}
    (items : List.Forall₂ (form.Takes n) vs xs) (refuses : form.Refuses n v cause) {first : Bool}
    {cs : List Char} (written : Written n (.items first (vs ++ v :: vs')) cs) (rest : List Char)
    {fuel : Nat} (enough : cs.length ≤ fuel) :
    ∃ left, readItems (form.read n) fuel first (cs ++ rest) = .error (.placed cause left) := by
  induction items generalizing first cs fuel with
  | nil =>
      cases written with
      | @item _ _ _ _ l cs ds lead value others =>
          obtain ⟨left, fails⟩ := refuses blank_nil value (others.detached_items rest)
          exact ⟨left, readItems_refused lead value fails enough⟩
  | cons takes items ih =>
      cases written with
      | @item _ _ _ _ l cs ds lead value others =>
          have taken := takes blank_nil value (others.detached_items rest)
          obtain ⟨fuel, enough, round⟩ := readItems_item lead value taken enough
          obtain ⟨left, fails⟩ := ih others enough
          refine ⟨left, round.trans ?_⟩
          rw [fails]
          rfl

/-- A list is refused for the first of its items that is. -/
theorem refuses_list {form : Form α} {vs vs' : List Json} {xs : List α}
    (items : List.Forall₂ (form.Takes n) vs xs) (refuses : form.Refuses n v cause) :
    form.list.Refuses (n + 1) (.array (vs ++ v :: vs')) cause := by
  intro b cs rest blank written apart
  cases written with
  | @array _ _ cs inside =>
      obtain ⟨left, fails⟩ :=
        readItems_refuses items refuses inside rest (length_le_itemFuel cs rest)
      refine ⟨left, ?_⟩
      simp only [list, skipSpace_append blank, List.cons_append]
      rw [skipSpace_cons (by decide)]
      simp only [fails, Failure.closedByArray]

/-! ### Records -/

section

variable {name : String} {slots : List (Slot α)} {blank : α}

open Entry

/-- A record refuses an object whose members, unknown ones aside, are entries for different slots
and leave one open that must be filled; it is refused for the first of those. -/
theorem refuses_record_among {ms : List (String × Json)} (es : List (Entry slots))
    (distinct : (es.map Entry.name).Nodup) (takes : ∀ e ∈ es, e.slot.form.Takes n e.value e.put)
    (order : (ms.filter (knows slots)).Perm (es.map member)) {slot : Slot α}
    (missing : open? es = some slot) :
    (record name slots blank).Refuses (n + 1) (.object ms) (.missingField slot.name) := by
  obtain ⟨es', order', fills⟩ := exists_fills es distinct takes order blank
  intro b cs rest space written apart
  cases written with
  | @object _ _ cs inside =>
      obtain ⟨b', space', read⟩ :=
        readMembers_among fills inside rest (length_le_itemFuel cs rest)
      refine ⟨Text.byteLength rest, ?_⟩
      simp only [record, skipSpace_append space, List.cons_append]
      rw [skipSpace_cons (by decide)]
      -- The members are read to their end, and the record misses the slot behind the brace.
      simp only [readMemberRecord, read, missing?_filled order', missing, Failure.closedByObject,
        skipSpace_append space']
      rw [skipSpace_cons (by decide)]
      rfl

end

/-! ### Whole texts -/

/-- From a text that is a written value, with blanks before and after it, a form takes nothing where
it refuses the value, and the fault has the same cause. -/
theorem parse_of_refuses {form : Form α} (refuses : form.Refuses maxNesting v cause)
    {b cs b' : List Char} (blank : Blank b) (written : Written maxNesting (.value v) cs)
    (blank' : Blank b') :
    ∃ place, form.parse (String.ofList (b ++ cs ++ b')) = .error ⟨cause, some place⟩ := by
  have apart : Detached b' := by simpa using blank'.detached detached_nil
  obtain ⟨left, fails⟩ := refuses blank written apart
  rw [parse, String.toList_ofList, List.append_assoc, fails, finish]
  exact ⟨_, rfl⟩

end GivenNames.Json.Form
