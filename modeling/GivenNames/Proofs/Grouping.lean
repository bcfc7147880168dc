import GivenNames.Proofs.Narrowing
import GivenNames.Proofs.Tally.Regrouping

/-!
Grouped sums and numbers of districts, by what they should be.

A tally sums the groups of rows when its keys increase, are those that rows have, and hold the sums
of the rows that have them (`Tally.SumsGroups`). There is one such tally (`SumsGroups.unique`), so
the order of the rows does not matter, and grouping what is grouped already is grouping at once
(`SumsGroups.regroup`). Main statement: where counts add up to a word, the tallies that words are
added up in sum the groups of registrations, whatever they are grouped by, and the numbers of
districts have the keys of the counts by name (`View.countsBy_sumsGroups`).
-/

namespace GivenNames

namespace Tally

open Std

variable {K F ρ : Type} [Ord K] [DecidableEq K]

/-! ### The sums of groups -/

/-- A tally sums the groups of rows: its keys increase, and are those that rows have; each holds the
sum of the weights of the rows that have it. -/
structure SumsGroups (key : ρ → K) (weight : ρ → Nat) (rows : List ρ) (t : Tally K Nat) :
    Prop where
  increasing : t.keys.Pairwise fun a b => compare a b = .lt
  keys : ∀ k, k ∈ t.keys ↔ ∃ r ∈ rows, key r = k
  sums : ∀ e ∈ t.entries, e.2 = sumAt key weight rows e.1

variable {key : ρ → K} {weight : ρ → Nat} {rows : List ρ} {t u : Tally K Nat}

/-- Sums of groups do not depend on the order of the rows. -/
theorem SumsGroups.of_perm {rows' : List ρ} (sums : SumsGroups key weight rows t)
    (order : rows'.Perm rows) : SumsGroups key weight rows' t where
  increasing := sums.increasing
  keys := by
    intro k
    rw [sums.keys]
    exact exists_congr fun r => and_congr_left fun _ => order.mem_iff.symm
  sums := by
    intro e member
    rw [sums.sums e member]
    exact ((order.filter _).map weight).sum_eq.symm

variable [LawfulEqOrd K] [TransOrd K]

/-- The groups of rows have their sums in one tally only. -/
theorem SumsGroups.unique (first : SumsGroups key weight rows t)
    (second : SumsGroups key weight rows u) : t = u := by
  have ordered : t.Ordered := List.pairwise_map.mp first.increasing
  have ordered' : u.Ordered := List.pairwise_map.mp second.increasing
  have keys : t.keys = u.keys :=
    ordered.keys_eq ordered' fun k => (first.keys k).trans (second.keys k).symm
  have entries : t.entries = u.entries := by
    rw [entries_eq_map_keys first.sums, keys, ← entries_eq_map_keys second.sums]
  exact congrArg Tally.mk entries

theorem sumsGroups_sumBy (key : ρ → K) (weight : ρ → Nat) (rows : List ρ) :
    SumsGroups key weight rows (sumBy key weight rows) where
  increasing := (ordered_sumBy key weight rows).pairwise_keys
  keys := by
    intro k
    rw [mem_keys_sumBy, List.mem_map]
  sums := by
    rintro ⟨k, sum⟩ member
    exact ((mem_entries_sumBy key weight).mp member).2

/-- An addition that is exact up to the weights of all rows sums their groups. -/
theorem sumsGroups_sumWith {plus : Nat → Nat → Nat} {limit : Nat} (exact : ExactUpTo limit plus)
    (key : ρ → K) (fits : (rows.map weight).sum ≤ limit) :
    SumsGroups key weight rows (sumWith plus key weight rows) := by
  rw [sumWith_eq_sumBy weight exact key fits]
  exact sumsGroups_sumBy key weight rows

/-- The sums of all groups are together the weights of all rows. -/
theorem SumsGroups.sum_values (sums : SumsGroups key weight rows t) :
    t.values.sum = (rows.map weight).sum := by
  obtain rfl := sums.unique (sumsGroups_sumBy key weight rows)
  exact sum_values_sumBy key weight rows

/-! ### Rows after other rows -/

theorem get?_sumBy_append (rows more : List ρ) (k : K) :
    (sumBy key weight (rows ++ more)).get? k =
      Option.merge (· + ·) ((sumBy key weight rows).get? k) ((sumBy key weight more).get? k) := by
  simp only [get?_sumBy, List.map_append, List.mem_append, sumAt_append]
  by_cases first : k ∈ rows.map key
  · by_cases second : k ∈ more.map key
    · simp only [first, second, or_self, if_true, Option.merge_some_some]
    · simp only [first, second, or_false, if_true, if_false, Option.merge_none_right,
        sumAt_eq_zero key weight second, Nat.add_zero]
  · by_cases second : k ∈ more.map key
    · simp only [first, second, or_true, if_true, if_false, Option.merge_none_left,
        sumAt_eq_zero key weight first, Nat.zero_add]
    · simp only [first, second, or_self, if_false, Option.merge_none_left]

/-- The sums of rows that stand after others are added to the sums of these, key by key. -/
theorem SumsGroups.get?_append {more : List ρ} {both : Tally K Nat}
    (sums : SumsGroups key weight rows t) (sums' : SumsGroups key weight more u)
    (whole : SumsGroups key weight (rows ++ more) both) (k : K) :
    both.get? k = Option.merge (· + ·) (t.get? k) (u.get? k) := by
  obtain rfl := sums.unique (sumsGroups_sumBy key weight rows)
  obtain rfl := sums'.unique (sumsGroups_sumBy key weight more)
  obtain rfl := whole.unique (sumsGroups_sumBy key weight (rows ++ more))
  exact get?_sumBy_append rows more k

/-! ### Groups of groups -/

section Regroup

variable [Ord F] [LawfulEqOrd F] [TransOrd F] [DecidableEq F]

omit [Ord K] [LawfulEqOrd K] [TransOrd K] in
/-- Fine sums that belong to one coarse key add up to the sum of its rows. -/
theorem sumAt_entries_sumBy (fine : ρ → F) (coarse : F → K) (weight : ρ → Nat) (rows : List ρ)
    (k : K) :
    sumAt (fun e => coarse e.1) Prod.snd (sumBy fine weight rows).entries k =
      sumAt (fun r => coarse (fine r)) weight rows k := by
  have part : (sumBy fine weight (rows.filter fun r => coarse (fine r) = k)).entries =
      (sumBy fine weight rows).entries.filter fun e => coarse e.1 = k :=
    entries_gather_filter fine (fun r sum => sum.getD 0 + weight r) (fun f => coarse f = k) rows
  rw [sumAt, ← part]
  exact sum_values_sumBy fine weight _

omit [LawfulEqOrd K] [TransOrd K] in
/-- Sums of the groups of sums of groups are sums of groups. -/
theorem SumsGroups.regroup {fine : ρ → F} {coarse : F → K} {t : Tally F Nat}
    (inner : SumsGroups fine weight rows t)
    (outer : SumsGroups (fun e => coarse e.1) Prod.snd t.entries u) :
    SumsGroups (fun r => coarse (fine r)) weight rows u where
  increasing := outer.increasing
  keys := by
    intro k
    rw [outer.keys]
    constructor
    · rintro ⟨e, member, same⟩
      obtain ⟨r, here, fine⟩ := (inner.keys e.1).mp (List.mem_map_of_mem member)
      exact ⟨r, here, (congrArg coarse fine).trans same⟩
    · rintro ⟨r, member, same⟩
      obtain ⟨e, here, fine⟩ := List.mem_map.mp ((inner.keys (fine r)).mpr ⟨r, member, rfl⟩)
      exact ⟨e, here, (congrArg coarse fine).trans same⟩
  sums := by
    intro e member
    obtain rfl := inner.unique (sumsGroups_sumBy fine weight rows)
    exact (outer.sums e member).trans (sumAt_entries_sumBy fine coarse weight rows e.1)

end Regroup

end Tally

/-! ### Counts of registrations -/

namespace View

open Population
open Tally (SumsGroups)

variable {K F : Type} [Ord K] [Std.LawfulEqOrd K] [Std.TransOrd K] [DecidableEq K] [Ord F]
  [Std.LawfulEqOrd F] [Std.TransOrd F] [DecidableEq F]

/-- The counts of the registrations of each key, added up as words of 64 bits. -/
def countsBy {K : Type} [Ord K] (key : Registration → K) (rows : List Registration) :
    Tally K Nat :=
  Tally.sumWith wrappingAdd key Registration.weight rows

theorem sumsGroups_countsBy (key : Registration → K) {rows : List Registration}
    (fits : weight rows < UInt64.size) :
    SumsGroups key Registration.weight rows (countsBy key rows) :=
  Tally.sumsGroups_sumWith (exactUpTo_wrappingAdd fits) key le_rfl

/-- The numbers of districts have the keys of the counts by name. -/
theorem keys_districtCounts (rows : List Registration) :
    (Stage.districtCounts rows).keys = (countsWith wrappingAdd rows).keys := by
  have ordered : (Stage.districtCounts rows).Ordered :=
    Tally.ordered_distinctBy Registration.key Registration.district rows
  refine ordered.keys_eq (Tally.ordered_sumWith _ _ wrappingAdd rows) fun key => ?_
  rw [Stage.districtCounts, Tally.mem_keys_distinctBy]
  exact (Tally.mem_keys_gather Registration.key _).symm

/-- Where the counts of registrations add up to a word, they are added up to the sums of the groups,
whatever is taken for the key. These sums are together the counts of all registrations; they do not
depend on the order; for registrations after others they are added key by key; and for a coarser key
they are the sums of the finer ones. The numbers of districts have the keys of the counts by name,
and each is the number of districts that occur among the registrations of its key. -/
theorem countsBy_sumsGroups (fine : Registration → F) (coarse : F → K) {rows : List Registration}
    (fits : weight rows < UInt64.size) :
    SumsGroups fine Registration.weight rows (countsBy fine rows) ∧
      (countsBy fine rows).values.sum = weight rows ∧
      (∀ rows', rows'.Perm rows → countsBy fine rows' = countsBy fine rows) ∧
      (∀ before after, before ++ after = rows → ∀ k,
        (countsBy fine rows).get? k =
          Option.merge (· + ·) ((countsBy fine before).get? k) ((countsBy fine after).get? k)) ∧
      Tally.sumWith wrappingAdd (fun e => coarse e.1) Prod.snd (countsBy fine rows).entries =
        countsBy (fun r => coarse (fine r)) rows ∧
      (Stage.districtCounts rows).keys = (countsWith wrappingAdd rows).keys ∧
      ∀ key ∈ (Stage.districtCounts rows).keys,
        (Stage.districtCounts rows).get? key = some (districts (ofKey key rows)).card := by
  have sums := sumsGroups_countsBy fine fits
  refine ⟨sums, sums.sum_values, ?_, ?_, ?_, keys_districtCounts rows, ?_⟩
  · intro rows' order
    have same : weight rows' = weight rows := (order.map Registration.weight).sum_eq
    have sums' := sumsGroups_countsBy fine (same ▸ fits)
    exact (sums'.of_perm order.symm).unique sums
  · rintro before after rfl k
    have parts : weight (before ++ after) = weight before + weight after := by simp [weight]
    have front : weight before < UInt64.size := by omega
    have back : weight after < UInt64.size := by omega
    have first := sumsGroups_countsBy fine front
    have second := sumsGroups_countsBy fine back
    exact first.get?_append second sums k
  · have total : ((countsBy fine rows).entries.map Prod.snd).sum ≤ weight rows :=
      sums.sum_values.le
    have again := Tally.sumsGroups_sumWith (exactUpTo_wrappingAdd fits) (fun e => coarse e.1) total
    exact (sums.regroup again).unique (sumsGroups_countsBy _ fits)
  · intro key known
    rw [Stage.get?_districtCounts, if_pos]
    exact (Tally.mem_keys_distinctBy Registration.key Registration.district).mp known

/-- Two registrations of one year, key and district, and one of another year and district. Their
counts add up to the greatest word. -/
def twinSample : List Registration :=
  [⟨2001, "B", .male, "Alex", 9223372036854775808⟩, ⟨2000, "A", .male, "Alex", 3⟩,
    ⟨2000, "A", .male, "Alex", 9223372036854775804⟩]

theorem countsBy_sumsGroups_twinSample :
    weight twinSample < UInt64.size ∧
      countsBy (fun r => (⟨r.year, r.key⟩ : Compound Int32 NameKey)) twinSample =
        ⟨[(⟨2000, ⟨"Alex", .male⟩⟩, 9223372036854775807),
          (⟨2001, ⟨"Alex", .male⟩⟩, 9223372036854775808)]⟩ ∧
      Tally.sumWith wrappingAdd (fun e => e.1.second) Prod.snd
          (countsBy (fun r => (⟨r.year, r.key⟩ : Compound Int32 NameKey)) twinSample).entries =
        ⟨[(⟨"Alex", .male⟩, 18446744073709551615)]⟩ ∧
      (Stage.districtCounts twinSample).get? ⟨"Alex", .male⟩ = some 2 := by
  have fits : weight twinSample < UInt64.size := by decide
  obtain ⟨-, -, -, -, regrouped, -, spread⟩ := countsBy_sumsGroups
    (fun r => (⟨r.year, r.key⟩ : Compound Int32 NameKey)) Compound.second fits
  refine ⟨fits, by decide +kernel, regrouped.trans (by decide +kernel), ?_⟩
  exact spread ⟨"Alex", .male⟩ (by decide +kernel)

end View

end GivenNames
