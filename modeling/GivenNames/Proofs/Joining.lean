import GivenNames.Proofs.Stages
import GivenNames.View

/-!
Joins with a side table, and the greatest value of each key.

A tally keeps the greatest of pairs when its keys increase, are those of the pairs, and hold values
that occur with them and that no other one exceeds (`Tally.KeepsGreatest`). There is one such tally
(`KeepsGreatest.unique`), and it depends on nothing but which pairs occur. A join keeps the items in
order and puts beside each what the table has at its key (`Tally.Joins`). Items whose keys the table
has are joined to its entries, and gathered by key they give these entries back
(`entries_largest_leftJoin`). Main statement: the rows of a part, joined with the numbers of
districts of the whole and gathered by key, have the numbers of the whole, and no default stands in
for one (`View.widest_restricts_districtCounts`).
-/

namespace GivenNames

namespace Tally

open Std

variable {K L V W : Type}

/-! ### The greatest value of each key -/

section Greatest

variable [Ord K]

/-- A tally keeps the greatest of pairs: its keys increase, and are those of the pairs; each holds a
value that occurs with it and is not exceeded by another one. -/
structure KeepsGreatest [LE V] (pairs : List (K × V)) (t : Tally K V) : Prop where
  ordered : t.Ordered
  keys : ∀ k, k ∈ t.keys ↔ ∃ p ∈ pairs, p.1 = k
  occurs : ∀ e ∈ t.entries, e ∈ pairs
  greatest : ∀ e ∈ t.entries, ∀ p ∈ pairs, p.1 = e.1 → p.2 ≤ e.2

/-- What is kept depends on which pairs occur, not on where they stand or how often. -/
theorem KeepsGreatest.of_mem_iff [LE V] {pairs pairs' : List (K × V)} {t : Tally K V}
    (keeps : KeepsGreatest pairs t) (same : ∀ p, p ∈ pairs' ↔ p ∈ pairs) :
    KeepsGreatest pairs' t where
  ordered := keeps.ordered
  keys := by
    intro k
    rw [keeps.keys]
    exact exists_congr fun p => and_congr_left fun _ => (same p).symm
  occurs := by
    intro e member
    exact (same e).mpr (keeps.occurs e member)
  greatest := by
    intro e member p other
    exact keeps.greatest e member p ((same p).mp other)

variable [LinearOrder V] {pairs pairs' : List (K × V)} {t u : Tally K V}

/-- What one tally keeps of pairs, any other one keeps: both have a value at the key, and neither
of the two exceeds the other. -/
theorem KeepsGreatest.mem_of_mem (first : KeepsGreatest pairs t) (second : KeepsGreatest pairs u)
    {e : K × V} (member : e ∈ t.entries) : e ∈ u.entries := by
  have pair := first.occurs e member
  obtain ⟨e', member', same⟩ := List.mem_map.mp ((second.keys e.1).mpr ⟨e, pair, rfl⟩)
  have below : e.2 ≤ e'.2 := second.greatest e' member' e pair same.symm
  have above : e'.2 ≤ e.2 := first.greatest e member e' (second.occurs e' member') same
  obtain rfl : e' = e := Prod.ext same (above.antisymm below)
  exact member'

variable [LawfulEqOrd K]

/-- A tally in order keeps the greatest of its own entries, since no key has two of them. -/
theorem Ordered.keepsGreatest (ordered : t.Ordered) : KeepsGreatest t.entries t where
  ordered := ordered
  keys := by
    intro k
    exact List.mem_map
  occurs := by
    intro e member
    exact member
  greatest := by
    rintro ⟨k, v⟩ member ⟨_, w⟩ other rfl
    rw [ordered.mem_entries] at member other
    exact (Option.some.inj (other.symm.trans member)).le

variable [TransOrd K]

/-- The greatest of pairs are kept in one tally only. -/
theorem KeepsGreatest.unique (first : KeepsGreatest pairs t) (second : KeepsGreatest pairs u) :
    t = u := by
  refine first.ordered.ext second.ordered fun k => Option.ext fun v => ?_
  rw [← first.ordered.mem_entries, ← second.ordered.mem_entries]
  exact ⟨first.mem_of_mem second, second.mem_of_mem first⟩

theorem ordered_largest (pairs : List (K × V)) : (largest pairs).Ordered :=
  ordered_gather Prod.fst (fun p : K × V => greater p.2) pairs

variable [DecidableEq K]

theorem mem_keys_largest {k : K} : k ∈ (largest pairs).keys ↔ k ∈ pairs.map Prod.fst :=
  mem_keys_gather Prod.fst fun p : K × V => greater p.2

/-- An entry is a pair that no other one of its key exceeds. -/
theorem mem_entries_largest {k : K} {v : V} :
    (k, v) ∈ (largest pairs).entries ↔ (k, v) ∈ pairs ∧ ∀ w, (k, w) ∈ pairs → w ≤ v := by
  rw [(ordered_largest pairs).mem_entries, get?_largest, List.max?_eq_some_iff]
  simp

theorem keepsGreatest_largest (pairs : List (K × V)) : KeepsGreatest pairs (largest pairs) where
  ordered := ordered_largest pairs
  keys := by
    intro k
    rw [mem_keys_largest, List.mem_map]
  occurs := by
    rintro ⟨k, v⟩ member
    exact (mem_entries_largest.mp member).1
  greatest := by
    rintro ⟨k, v⟩ member ⟨_, w⟩ other rfl
    exact (mem_entries_largest.mp member).2 w other

theorem largest_eq_of_mem_iff (same : ∀ p, p ∈ pairs' ↔ p ∈ pairs) :
    largest pairs' = largest pairs :=
  (keepsGreatest_largest pairs').unique ((keepsGreatest_largest pairs).of_mem_iff same)

end Greatest

/-! ### Joins -/

section Joins

variable {key : L → K} {table : Tally K W} {items : List L} {joined : List (L × Option W)}

/-- A list joins items with a side table: it has the items in their order, each with the value that
the table has at its key, if there is one. -/
structure Joins (key : L → K) (table : Tally K W) (items : List L) (joined : List (L × Option W)) :
    Prop where
  items : joined.map Prod.fst = items
  values : ∀ p ∈ joined, ∀ w, p.2 = some w ↔ (key p.1, w) ∈ table.entries

theorem Joins.item_mem (joins : Joins key table items joined) {p : L × Option W}
    (member : p ∈ joined) : p.1 ∈ items :=
  joins.items ▸ List.mem_map_of_mem member

/-- An item whose key the table has is joined to an entry. -/
theorem Joins.exists_entry (joins : Joins key table items joined) {p : L × Option W}
    (member : p ∈ joined) (known : key p.1 ∈ table.keys) :
    ∃ w, p.2 = some w ∧ (key p.1, w) ∈ table.entries := by
  obtain ⟨⟨_, w⟩, entry, rfl⟩ := List.mem_map.mp known
  exact ⟨w, (joins.values p member w).mpr entry, entry⟩

/-- Where the table has the keys of all items, the pairs made of the join are the entries of these
keys, whatever would stand in for a missing value. -/
theorem Joins.mem_map_iff (joins : Joins key table items joined)
    (known : ∀ x ∈ items, key x ∈ table.keys) (default : W) {e : K × W} :
    e ∈ joined.map (fun p => (key p.1, p.2.getD default)) ↔
      e ∈ table.entries ∧ e.1 ∈ items.map key := by
  constructor
  · intro member
    obtain ⟨p, here, rfl⟩ := List.mem_map.mp member
    have item := joins.item_mem here
    obtain ⟨w, value, entry⟩ := joins.exists_entry here (known p.1 item)
    rw [value]
    exact ⟨entry, List.mem_map_of_mem item⟩
  · rintro ⟨entry, among⟩
    obtain ⟨x, listed, same⟩ := List.mem_map.mp among
    rw [← joins.items] at listed
    obtain ⟨p, here, rfl⟩ := List.mem_map.mp listed
    obtain ⟨k, w⟩ := e
    obtain rfl : key p.1 = k := same
    have value : p.2 = some w := (joins.values p here w).mpr entry
    refine List.mem_map.mpr ⟨p, here, ?_⟩
    rw [value, Option.getD_some]

variable [Ord K] [LawfulEqOrd K]

theorem joins_leftJoin (key : L → K) (items : List L) (ordered : table.Ordered) :
    Joins key table items (leftJoin items table key) where
  items := by
    rw [leftJoin, List.map_map]
    exact List.map_id items
  values := by
    intro p member w
    obtain ⟨item, _, rfl⟩ := List.mem_map.mp member
    exact ordered.mem_entries.symm

/-- Items whose keys the table has, joined to it and gathered by key, give back the entries of their
keys. -/
theorem entries_largest_leftJoin [TransOrd K] [DecidableEq K] [LinearOrder W]
    (ordered : table.Ordered) (known : ∀ x ∈ items, key x ∈ table.keys) (default : W) :
    (largest ((leftJoin items table key).map fun p => (key p.1, p.2.getD default))).entries =
      table.entries.filter fun e => e.1 ∈ items.map key := by
  have part : Ordered ⟨table.entries.filter fun e => e.1 ∈ items.map key⟩ :=
    Increasing.filter ordered _
  have joins := joins_leftJoin key items ordered
  -- However many items share a key, the pairs are entries of the part and no others.
  have keeps := part.keepsGreatest.of_mem_iff fun e => by
    rw [joins.mem_map_iff known default, List.mem_filter, decide_eq_true_eq]
  rw [(keepsGreatest_largest _).unique keeps]

end Joins

end Tally

/-! ### Numbers of districts -/

namespace View

variable {rows narrowed : List Registration}

theorem key_mem_keys_districtCounts (sub : narrowed ⊆ rows) {r : Registration}
    (member : r ∈ narrowed) : r.key ∈ (Stage.districtCounts rows).keys :=
  (Tally.mem_keys_distinctBy Registration.key Registration.district).mpr
    (List.mem_map_of_mem (sub member))

/-- The rows of a part find the numbers of districts of the whole. -/
theorem entries_widest (sub : narrowed ⊆ rows) :
    (widest rows narrowed).entries =
      (Stage.districtCounts rows).entries.filter fun e => e.1 ∈ narrowed.map Registration.key :=
  Tally.entries_largest_leftJoin (Tally.ordered_distinctBy _ _ rows)
    (fun _ member => key_mem_keys_districtCounts sub member) 0

/-- Gathering pairs keeps the greatest value of each key, in whichever order the pairs stand, and
pairs that occur already add nothing. A join has every item once and in its place, with what the
side table has at its key. So the rows of a part all find numbers of districts of the whole, and
gathered from them are the numbers of districts of the whole at the keys that the part has. -/
theorem widest_restricts_districtCounts {K L V W : Type} [Ord K] [Std.LawfulEqOrd K]
    [Std.TransOrd K] [DecidableEq K] [LinearOrder V] (pairs : List (K × V)) {table : Tally K W}
    (ordered : table.Ordered) (key : L → K) (items : List L) (sub : narrowed ⊆ rows) :
    Tally.KeepsGreatest pairs (Tally.largest pairs) ∧
      (∀ pairs', pairs'.Perm pairs → Tally.largest pairs' = Tally.largest pairs) ∧
      (∀ again, again ⊆ pairs → Tally.largest (pairs ++ again) = Tally.largest pairs) ∧
      Tally.Joins key table items (Tally.leftJoin items table key) ∧
      (∀ p ∈ Tally.leftJoin narrowed (Stage.districtCounts rows) Registration.key,
        p.2.isSome) ∧
      (widest rows narrowed).entries =
        (Stage.districtCounts rows).entries.filter fun e =>
          e.1 ∈ narrowed.map Registration.key := by
  refine ⟨Tally.keepsGreatest_largest pairs, ?_, ?_, Tally.joins_leftJoin key items ordered, ?_,
    entries_widest sub⟩
  · intro pairs' order
    apply Tally.largest_eq_of_mem_iff
    intro p
    exact order.mem_iff
  · intro again repeated
    apply Tally.largest_eq_of_mem_iff
    intro p
    rw [List.mem_append]
    exact or_iff_left_of_imp fun member => repeated member
  · intro p member
    have joins := Tally.joins_leftJoin Registration.key narrowed
      (Tally.ordered_distinctBy Registration.key Registration.district rows)
    have known := key_mem_keys_districtCounts sub (joins.item_mem member)
    obtain ⟨districts, value, _⟩ := joins.exists_entry member known
    exact Option.isSome_of_mem value

/-- Pairs of which one key has two, the greater one behind the lesser. -/
def pairSample : List (NameKey × Nat) :=
  [(⟨"Maria", .female⟩, 4), (⟨"Alex", .male⟩, 1), (⟨"Alex", .male⟩, 3)]

theorem widest_restricts_districtCounts_sample :
    (Stage.districtCounts Population.sample).Ordered ∧
      Stage.district (some "A") Population.sample ⊆ Population.sample ∧
      Tally.largest (pairSample ++ [(⟨"Alex", .male⟩, 1)]) =
        ⟨[(⟨"Alex", .male⟩, 3), (⟨"Maria", .female⟩, 4)]⟩ ∧
      Tally.Joins (NameKey.mk · .male) (Stage.districtCounts Population.sample)
        ["Alex", "Maria", "Alex"] [("Alex", some 2), ("Maria", none), ("Alex", some 2)] ∧
      (widest Population.sample (Stage.district (some "A") Population.sample)).entries =
        [(⟨"Alex", .male⟩, 2), (⟨"Maria", .female⟩, 1)] := by
  have ordered : (Stage.districtCounts Population.sample).Ordered :=
    Tally.ordered_distinctBy _ _ Population.sample
  have sub : Stage.district (some "A") Population.sample ⊆ Population.sample :=
    List.filter_subset_self _
  obtain ⟨-, -, repeated, joins, -, restricted⟩ := widest_restricts_districtCounts pairSample
    ordered (NameKey.mk · .male) ["Alex", "Maria", "Alex"] sub
  refine ⟨ordered, sub, ?_, ?_, restricted.trans (by decide +kernel)⟩
  · have occurs : [(⟨"Alex", .male⟩, 1)] ⊆ pairSample := by decide
    exact (repeated _ occurs).trans (by decide +kernel)
  · have joined : Tally.leftJoin ["Alex", "Maria", "Alex"] (Stage.districtCounts Population.sample)
        (NameKey.mk · .male) = [("Alex", some 2), ("Maria", none), ("Alex", some 2)] := by
      decide +kernel
    exact joined ▸ joins

end View

end GivenNames
