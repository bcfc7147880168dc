import GivenNames.Proofs.Json.Forms
import GivenNames.Proofs.Tally.Entries

/-!
Members in any order.

An entry of a record is a member that one of its slots knows by its key, with what it does to the
record. Main statement: entries for different slots that change different parts of the record make
the same record in whatever order their members stand, written in a text (`takes_record_of_perm`) or
given as a value (`ofValue_record_of_perm`). Bringing members into key order is such a change of
order, as long as no key occurs twice (`sortedMembers_perm`).
-/

namespace GivenNames.Json

/-! ### Key order -/

/-- A member with its value in key order. -/
def sortedMember (m : String × Json) : String × Json :=
  (m.1, m.2.sorted)

theorem sortedMembers_append_perm {ms gathered : List (String × Json)}
    (distinct : (ms.map Prod.fst ++ gathered.map Prod.fst).Nodup) :
    (sortedMembers ms gathered).Perm (ms.map sortedMember ++ gathered) := by
  induction ms generalizing gathered with
  | nil => exact .refl _
  | cons m ms ih =>
      obtain ⟨key, value⟩ := m
      obtain ⟨absent, others⟩ := List.nodup_cons.mp distinct
      have set : (setMember key value.sorted gathered).Perm ((key, value.sorted) :: gathered) :=
        Tally.alterAt_perm fun member => absent (List.mem_append_right _ member)
      have keys : (ms.map Prod.fst ++ (setMember key value.sorted gathered).map Prod.fst).Perm
          (key :: (ms.map Prod.fst ++ gathered.map Prod.fst)) :=
        ((set.map Prod.fst).append_left _).trans List.perm_middle
      exact (ih (keys.nodup_iff.mpr distinct)).trans ((set.append_left _).trans List.perm_middle)

/-- Members with different keys are brought into key order by a change of order. -/
theorem sortedMembers_perm {ms : List (String × Json)} (distinct : (ms.map Prod.fst).Nodup) :
    (sortedMembers ms []).Perm (ms.map sortedMember) := by
  have gathered : (ms.map Prod.fst ++ ([] : List (String × Json)).map Prod.fst).Nodup := by
    simpa using distinct
  simpa using sortedMembers_append_perm gathered

namespace Form

variable {α β : Type}

/-! ### Entries -/

/-- A member that a slot knows by its key, and what it does to the record. -/
structure Entry (slots : List (Slot α)) where
  key : String
  value : Json
  slot : Slot α
  put : α → α
  found : slots.find? (·.isFor key) = some slot

namespace Entry

variable {slots : List (Slot α)} {es es' : List (Entry slots)} {filling : Filling α}

/-- The entry of a member for a slot that puts a value of a form into the record. -/
def putting {name : String} {aliases : List String} {required : Bool} {form : Form β}
    {put : β → α → α} (key : String) (value : Json) (x : β)
    (found : slots.find? (·.isFor key) = some (.of name aliases required form put)) :
    Entry slots :=
  ⟨key, value, .of name aliases required form put, put x, found⟩

section

variable {name key : String} {aliases : List String} {required : Bool} {form : Form β}
  {put : β → α → α} {value : Json} {x : β}
  {found : slots.find? (·.isFor key) = some (.of name aliases required form put)}

theorem takes_putting {n : Nat} (takes : form.Takes n value x) :
    (putting key value x found).slot.form.Takes n (putting key value x found).value
      (putting key value x found).put :=
  takes.map put

theorem ofValue_putting (gives : form.ofValue value = .ok x) :
    (putting key value x found).slot.form.ofValue (putting key value x found).value =
      .ok (putting key value x found).put := by
  simp only [putting, Slot.of, Form.map, gives, Except.map]

end

/-- The member of an entry. -/
def member (e : Entry slots) : String × Json :=
  (e.key, e.value)

/-- The name of the slot of an entry. -/
def name (e : Entry slots) : String :=
  e.slot.name

/-- What entries make of a record, one after the other. -/
def putAll (es : List (Entry slots)) (record : α) : α :=
  es.foldl (fun record e => e.put record) record

/-- The entries change different parts of the record. -/
def Apart (es : List (Entry slots)) : Prop :=
  ∀ e ∈ es, ∀ e' ∈ es, ∀ record, e.put (e'.put record) = e'.put (e.put record)

/-- The entries are for slots that are all different, among them every slot that must be filled. -/
structure Complete (es : List (Entry slots)) : Prop where
  distinct : (es.map name).Nodup
  required : ∀ slot ∈ slots, slot.required = true → slot.name ∈ es.map name

/-- The filling that entries lead to. -/
def filled (es : List (Entry slots)) (filling : Filling α) : Filling α :=
  es.foldl (fun filling e => filling.fill e.slot e.put) filling

theorem filled_record : (filled es filling).record = putAll es filling.record := by
  induction es generalizing filling with
  | nil => rfl
  | cons e es ih => exact ih

theorem mem_filled {slot : String} :
    slot ∈ (filled es filling).filled ↔ slot ∈ es.map name ∨ slot ∈ filling.filled := by
  induction es generalizing filling with
  | nil => simp [filled]
  | cons e es ih =>
      refine Iff.trans ih ?_
      simp only [Filling.fill, List.mem_cons, List.map_cons, name]
      tauto

/-- Entries that fill every slot that must be filled leave none open. -/
theorem Complete.missing? (complete : Complete es) (blank : α) :
    (filled es ⟨blank, []⟩).missing? slots = none := by
  refine List.find?_eq_none.mpr fun slot here => ?_
  simp only [Filling.has, Bool.and_eq_true, Bool.not_eq_true', not_and, Bool.not_eq_false,
    List.contains_iff_mem]
  intro required
  exact mem_filled.mpr (.inl (complete.required slot here required))

/-- The first slot that must be filled and that no entry is for. -/
def open? (es : List (Entry slots)) : Option (Slot α) :=
  slots.find? fun slot => slot.required && !(es.map name).contains slot.name

/-- Entries leave open what they are not for, whatever their order. -/
theorem missing?_filled (order : es'.Perm es) (blank : α) :
    (filled es' ⟨blank, []⟩).missing? slots = open? es := by
  have has (slot : Slot α) :
      (filled es' ⟨blank, []⟩).has slot = (es.map name).contains slot.name := by
    rw [Bool.eq_iff_iff, Filling.has, List.contains_iff_mem, List.contains_iff_mem, mem_filled,
      (order.map name).mem_iff]
    exact or_iff_left List.not_mem_nil
  simp only [Filling.missing?, open?, has]

/-- The first of entries that are for different slots finds its slot free, and the others are for
slots that stay free. -/
theorem has_fill_of_nodup {e : Entry slots}
    (distinct : ((e :: es).map name ++ filling.filled).Nodup) :
    filling.has e.slot = false ∧
      (es.map name ++ (filling.fill e.slot e.put).filled).Nodup := by
  refine ⟨?_, List.perm_middle.nodup_iff.mpr distinct⟩
  have absent : e.slot.name ∉ filling.filled := fun member =>
    (List.nodup_cons.mp distinct).1 (List.mem_append_right _ member)
  simpa [Filling.has] using absent

/-! The order of the entries makes no difference. -/

theorem putAll_of_perm (order : es'.Perm es) (apart : Apart es) (record : α) :
    putAll es' record = putAll es record :=
  (order.symm.foldl_eq' (fun e here e' here' record => apart e' here' e here record) record).symm

theorem Complete.of_perm (complete : Complete es) (order : es'.Perm es) : Complete es' where
  distinct := (order.map name).nodup_iff.mpr complete.distinct
  required := fun slot here required =>
    (order.map name).mem_iff.mpr (complete.required slot here required)

/-- Members in another order are the members of the entries in another order. -/
theorem exists_perm_of_members {ms : List (String × Json)} (order : ms.Perm (es.map member)) :
    ∃ es' : List (Entry slots), ms = es'.map member ∧ es'.Perm es :=
  (congrFun₂ (List.eq_map_comp_perm member) ms es).mpr order

end Entry

/-! ### From text -/

section

variable {n : Nat} {slots : List (Slot α)} {es : List (Entry slots)} {name : String} {blank x : α}
  {ms : List (String × Json)}

open Entry

theorem fills_filled (filling : Filling α)
    (takes : ∀ e ∈ es, e.slot.form.Takes n e.value e.put)
    (distinct : (es.map Entry.name ++ filling.filled).Nodup) :
    Fills slots n filling (es.map member) (filled es filling) := by
  induction es generalizing filling with
  | nil => exact .done
  | cons e es ih =>
      -- The slot of the first entry is free, and filling it leaves those of the others free.
      obtain ⟨free, others⟩ := has_fill_of_nodup distinct
      exact .member e.found free (takes e List.mem_cons_self)
        (ih _ (fun e' here => takes e' (List.mem_cons_of_mem _ here)) others)

/-- Entries for different slots fill these slots, in whatever order their members stand. -/
theorem exists_fills (es : List (Entry slots)) (distinct : (es.map Entry.name).Nodup)
    (takes : ∀ e ∈ es, e.slot.form.Takes n e.value e.put) (order : ms.Perm (es.map member))
    (blank : α) :
    ∃ es' : List (Entry slots), es'.Perm es ∧
      Fills slots n ⟨blank, []⟩ ms (filled es' ⟨blank, []⟩) := by
  obtain ⟨es', rfl, order'⟩ := exists_perm_of_members order
  have distinct' : (es'.map Entry.name ++ []).Nodup := by
    rw [List.append_nil]
    exact (order'.map Entry.name).nodup_iff.mpr distinct
  exact ⟨es', order', fills_filled _ (fun e here => takes e (order'.mem_iff.mp here)) distinct'⟩

/-- Complete entries fill a record, in whatever order their members stand. -/
theorem fills_of_perm (es : List (Entry slots)) (complete : Complete es) (apart : Apart es)
    (takes : ∀ e ∈ es, e.slot.form.Takes n e.value e.put) (order : ms.Perm (es.map member))
    (made : putAll es blank = x) :
    ∃ filled : Filling α, Fills slots n ⟨blank, []⟩ ms filled ∧ filled.missing? slots = none ∧
      filled.record = x := by
  subst made
  obtain ⟨es', order', fills⟩ := exists_fills es complete.distinct takes order blank
  refine ⟨_, fills, (complete.of_perm order').missing? blank, ?_⟩
  rw [filled_record, putAll_of_perm order' apart]

/-- A record takes an object whose members are complete entries, in whatever order they stand. -/
theorem takes_record_of_perm (es : List (Entry slots)) (complete : Complete es) (apart : Apart es)
    (takes : ∀ e ∈ es, e.slot.form.Takes n e.value e.put) (order : ms.Perm (es.map member))
    (made : putAll es blank = x) : (record name slots blank).Takes (n + 1) (.object ms) x := by
  obtain ⟨filled, fills, whole, rfl⟩ := fills_of_perm es complete apart takes order made
  exact takes_record filled fills whole

/-! ### From values -/

theorem ofMembers_filled (filling : Filling α)
    (gives : ∀ e ∈ es, e.slot.form.ofValue e.value = .ok e.put)
    (distinct : (es.map Entry.name ++ filling.filled).Nodup) :
    Filling.ofMembers slots filling (es.map member) = .ok (filled es filling) := by
  induction es generalizing filling with
  | nil => rfl
  | cons e es ih =>
      obtain ⟨free, others⟩ := has_fill_of_nodup distinct
      simp only [List.map_cons, member, Filling.ofMembers, e.found, free,
        gives e List.mem_cons_self]
      exact ih _ (fun e' here => gives e' (List.mem_cons_of_mem _ here)) others

/-- A record is given by an object whose members are complete entries, in whatever order they
stand. -/
theorem ofValue_record_of_perm (es : List (Entry slots)) (complete : Complete es) (apart : Apart es)
    (gives : ∀ e ∈ es, e.slot.form.ofValue e.value = .ok e.put)
    (order : ms.Perm (es.map member)) (made : putAll es blank = x) :
    (record name slots blank).ofValue (.object ms) = .ok x := by
  subst made
  obtain ⟨es', rfl, order'⟩ := exists_perm_of_members order
  have complete' := complete.of_perm order'
  have fills := ofMembers_filled ⟨blank, []⟩
    (fun e here => gives e (order'.mem_iff.mp here)) (by simpa using complete'.distinct)
  simp only [record, fills, complete'.missing?, filled_record, putAll_of_perm order' apart]

end

end Form

end GivenNames.Json
