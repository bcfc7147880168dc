import GivenNames.Proofs.Tally.Entries
import Mathlib

/-!
What gathering rows under keys amounts to.

Each of the four ways to gather is one fold that alters the value at the key of every row
(`gather`). Its value at a key is a fold over the rows of that key alone (`get?_gather`), so the rows
of some keys have the entries of those keys (`entries_gather_filter`). The four closed forms follow:
a sum of weights (`get?_sumBy`), the keys themselves (`isSome_get?_labels`), a number of distinct
labels (`get?_distinctBy`), and a greatest value (`get?_largest`). An addition that is exact up to
the sum of all weights gathers the same sums (`sumWith_eq_sumBy`).
-/

namespace GivenNames.Tally

open Std

variable {K V ρ : Type} [Ord K]

/-! ### Tallies in order -/

/-- The keys of a tally increase strictly. -/
def Ordered (t : Tally K V) : Prop :=
  Increasing t.entries

theorem ordered_empty : (empty : Tally K V).Ordered :=
  List.Pairwise.nil

theorem Ordered.pairwise_keys {t : Tally K V} (ordered : t.Ordered) :
    t.keys.Pairwise fun a b => compare a b = .lt :=
  List.pairwise_map.mpr ordered

theorem get?_mapValues {W : Type} (t : Tally K V) (f : V → W) (k : K) :
    (t.mapValues f).get? k = (t.get? k).map f := by
  obtain ⟨entries⟩ := t
  induction entries with
  | nil => rfl
  | cons head rest ih =>
      simp only [get?, Tally.mapValues, List.map_cons, valueAt?] at ih ⊢
      split
      · rfl
      · exact ih

omit [Ord K] in
theorem keys_mapValues {W : Type} (t : Tally K V) (f : V → W) : (t.mapValues f).keys = t.keys := by
  rw [keys, keys, Tally.mapValues, List.map_map]
  rfl

theorem Ordered.mapValues {W : Type} {t : Tally K V} (ordered : t.Ordered) (f : V → W) :
    (t.mapValues f).Ordered :=
  List.pairwise_map.mpr ordered

variable [LawfulEqOrd K]

theorem Ordered.nodup_keys {t : Tally K V} (ordered : t.Ordered) : t.keys.Nodup :=
  Increasing.nodup_keys ordered

theorem Ordered.mem_entries {t : Tally K V} (ordered : t.Ordered) {k : K} {v : V} :
    (k, v) ∈ t.entries ↔ t.get? k = some v :=
  mem_iff_valueAt? ordered

theorem Ordered.mem_keys {t : Tally K V} (ordered : t.Ordered) {k : K} :
    k ∈ t.keys ↔ (t.get? k).isSome := by
  simp only [keys, List.mem_map, Prod.exists, exists_and_right, exists_eq_right,
    ordered.mem_entries, Option.isSome_iff_exists]

omit [Ord K] [LawfulEqOrd K] in
/-- Entries whose values a function gives are the keys paired with its values. -/
theorem entries_eq_map_keys {t : Tally K V} {f : K → V} (values : ∀ e ∈ t.entries, e.2 = f e.1) :
    t.entries = t.keys.map fun k => (k, f k) := by
  rw [keys, List.map_map]
  refine (List.map_id t.entries).symm.trans (List.map_congr_left fun e member => ?_)
  exact Prod.ext rfl (values e member)

variable [TransOrd K]

theorem Ordered.alter {t : Tally K V} (ordered : t.Ordered) (k : K) (f : Option V → V) :
    (t.alter k f).Ordered :=
  increasing_alterAt k f ordered

theorem Ordered.get?_alter [DecidableEq K] {t : Tally K V} (ordered : t.Ordered) (j k : K)
    (f : Option V → V) :
    (t.alter k f).get? j = if k = j then some (f (t.get? k)) else t.get? j := by
  by_cases same : k = j
  · subst same
    rw [if_pos rfl]
    exact valueAt?_alterAt_self k f ordered
  · rw [if_neg same]
    exact valueAt?_alterAt_of_ne (Ne.symm same) f t.entries

/-- Tallies in order that have the same keys have them in the same order. -/
theorem Ordered.keys_eq {W : Type} {t : Tally K V} {u : Tally K W} (ordered : t.Ordered)
    (ordered' : u.Ordered) (same : ∀ k, k ∈ t.keys ↔ k ∈ u.keys) : t.keys = u.keys := by
  have perm := (List.perm_ext_iff_of_nodup ordered.nodup_keys ordered'.nodup_keys).mpr same
  refine perm.eq_of_pairwise ?_ ordered.pairwise_keys ordered'.pairwise_keys
  intro a b _ _ less greater
  rw [OrientedCmp.gt_iff_lt.mpr greater] at less
  cases less

/-- Tallies in order are fixed by their values. -/
theorem Ordered.ext {t u : Tally K V} (ordered : t.Ordered) (ordered' : u.Ordered)
    (same : ∀ k, t.get? k = u.get? k) : t = u := by
  obtain ⟨entries⟩ := t
  obtain ⟨entries'⟩ := u
  exact congrArg Tally.mk (Increasing.ext ordered ordered' same)

/-! ### Gathering as one fold -/

/-- The table in which every row, one after the other, has altered the value at its key. -/
def gather (key : ρ → K) (step : ρ → Option V → V) (rows : List ρ) : Tally K V :=
  rows.foldl (fun t r => t.alter (key r) (step r)) empty

section Gather

variable (key : ρ → K) (step : ρ → Option V → V)

/-- One more row keeps the table in order, and so do all of them. -/
theorem ordered_foldl_alter (rows : List ρ) {t : Tally K V} (ordered : t.Ordered) :
    (rows.foldl (fun t r => t.alter (key r) (step r)) t).Ordered := by
  induction rows generalizing t with
  | nil => exact ordered
  | cons r rows ih => exact ih (ordered.alter (key r) (step r))

theorem ordered_gather (rows : List ρ) : (gather key step rows).Ordered :=
  ordered_foldl_alter key step rows ordered_empty

variable [DecidableEq K]

theorem get?_foldl_alter (rows : List ρ) {t : Tally K V} (ordered : t.Ordered) (k : K) :
    (rows.foldl (fun t r => t.alter (key r) (step r)) t).get? k =
      (rows.filter fun r => key r = k).foldl (fun v r => some (step r v)) (t.get? k) := by
  induction rows generalizing t with
  | nil => rfl
  | cons r rows ih =>
      rw [List.foldl_cons, ih (ordered.alter (key r) (step r)), ordered.get?_alter]
      by_cases same : key r = k
      · simp [same]
      · simp [same]

/-- The value at a key comes from the rows of that key alone. -/
theorem get?_gather (rows : List ρ) (k : K) :
    (gather key step rows).get? k =
      (rows.filter fun r => key r = k).foldl (fun v r => some (step r v)) none :=
  get?_foldl_alter key step rows ordered_empty k

/-- Every value is what some row made of an earlier one. -/
theorem exists_step_of_get?_gather {rows : List ρ} {k : K} {v : V}
    (value : (gather key step rows).get? k = some v) : ∃ r ∈ rows, ∃ before, v = step r before := by
  rw [get?_gather] at value
  rcases List.eq_nil_or_concat (rows.filter fun r => key r = k) with empty | ⟨front, last, split⟩
  · rw [empty] at value
    cases value
  · rw [split, List.concat_eq_append, List.foldl_append] at value
    cases value
    have member : last ∈ rows.filter fun r => key r = k := by simp [split]
    exact ⟨last, List.mem_of_mem_filter member, _, rfl⟩

end Gather

/-! ### Rows of some keys -/

/-- A key occurs where it has rows. -/
theorem mem_map_iff_filter_ne_nil {κ : Type} [DecidableEq κ] {key : ρ → κ} {rows : List ρ} {k : κ} :
    k ∈ rows.map key ↔ (rows.filter fun r => key r = k) ≠ [] := by
  simp

/-- A filter that looks at keys alone keeps or drops the rows of a key as a whole. -/
theorem filter_filter_key {κ : Type} [DecidableEq κ] (key : ρ → κ) (p : κ → Bool) (rows : List ρ)
    (k : κ) : (rows.filter fun r => p (key r)).filter (fun r => key r = k) =
      if p k then rows.filter fun r => key r = k else [] := by
  rw [List.filter_filter]
  split
  · rename_i kept
    refine List.filter_congr fun r _ => ?_
    by_cases same : key r = k <;> simp [same, kept]
  · rename_i dropped
    refine List.filter_eq_nil_iff.mpr fun r _ => ?_
    by_cases same : key r = k <;> simp [same, dropped]

section SomeKeys

variable [DecidableEq K] (key : ρ → K) (step : ρ → Option V → V)

/-- A key has a value where it has rows, whatever the rows make of it. -/
theorem mem_keys_gather {rows : List ρ} {k : K} :
    k ∈ (gather key step rows).keys ↔ k ∈ rows.map key := by
  rw [(ordered_gather key step rows).mem_keys, get?_gather, mem_map_iff_filter_ne_nil]
  rcases List.eq_nil_or_concat (rows.filter fun r => key r = k) with empty | ⟨front, last, split⟩
  · simp [empty]
  · simp [split]

/-- Gathering the rows of some keys gives the entries of those keys. -/
theorem entries_gather_filter (p : K → Bool) (rows : List ρ) :
    (gather key step (rows.filter fun r => p (key r))).entries =
      (gather key step rows).entries.filter fun e => p e.1 := by
  have ordered := ordered_gather key step (rows.filter fun r => p (key r))
  refine Increasing.ext ordered ((ordered_gather key step rows).filter _) fun k => ?_
  rw [valueAt?_filter_key]
  have part := get?_gather key step (rows.filter fun r => p (key r)) k
  rw [filter_filter_key] at part
  split
  · rename_i kept
    rw [if_pos kept] at part
    exact part.trans (get?_gather key step rows k).symm
  · rename_i dropped
    rwa [if_neg dropped] at part

theorem keys_gather_filter (p : K → Bool) (rows : List ρ) :
    (gather key step (rows.filter fun r => p (key r))).keys =
      (gather key step rows).keys.filter p := by
  rw [keys, entries_gather_filter, keys, List.filter_map]
  rfl

theorem get?_gather_filter {p : K → Bool} {k : K} (kept : p k) (rows : List ρ) :
    (gather key step (rows.filter fun r => p (key r))).get? k = (gather key step rows).get? k := by
  rw [get?_gather, get?_gather, filter_filter_key, if_pos kept]

end SomeKeys

/-! ### Sums -/

/-- The sum of the weights of the rows of one key. -/
def sumAt {κ : Type} [DecidableEq κ] (key : ρ → κ) (weight : ρ → Nat) (rows : List ρ) (k : κ) :
    Nat :=
  ((rows.filter fun r => key r = k).map weight).sum

section Fibers

variable {κ : Type} [DecidableEq κ] (key : ρ → κ) (weight : ρ → Nat)

theorem sumAt_cons (r : ρ) (rows : List ρ) (k : κ) :
    sumAt key weight (r :: rows) k =
      (if key r = k then weight r else 0) + sumAt key weight rows k := by
  by_cases same : key r = k <;> simp [sumAt, same]

theorem sumAt_append (rows more : List ρ) (k : κ) :
    sumAt key weight (rows ++ more) k = sumAt key weight rows k + sumAt key weight more k := by
  simp [sumAt]

/-- A group without rows sums up to nothing. -/
theorem sumAt_eq_zero {rows : List ρ} {k : κ} (absent : k ∉ rows.map key) :
    sumAt key weight rows k = 0 := by
  have empty : (rows.filter fun r => key r = k) = [] :=
    not_not.mp fun some => absent (mem_map_iff_filter_ne_nil.mpr some)
  rw [sumAt, empty]
  rfl

/-- The sums of a finite set of groups that covers the rows make up the sum of all rows. -/
theorem sum_sumAt {rows : List ρ} {groups : Finset κ} (covered : ∀ r ∈ rows, key r ∈ groups) :
    ∑ k ∈ groups, sumAt key weight rows k = (rows.map weight).sum := by
  induction rows with
  | nil => simp [sumAt]
  | cons r rows ih =>
      have here : key r ∈ groups := covered r List.mem_cons_self
      have rest := ih fun r member => covered r (List.mem_cons_of_mem _ member)
      simp only [sumAt_cons, Finset.sum_add_distrib, rest, Finset.sum_ite_eq, if_pos here,
        List.map_cons, List.sum_cons]

theorem foldl_add_some (rows : List ρ) (sum : Nat) :
    rows.foldl (fun v r => some (v.getD 0 + weight r)) (some sum) =
      some (sum + (rows.map weight).sum) := by
  induction rows generalizing sum with
  | nil => simp
  | cons r rows ih => simp [ih, Nat.add_assoc]

end Fibers

section Sums

variable (key : ρ → K) (weight : ρ → Nat)

theorem ordered_sumWith (plus : Nat → Nat → Nat) (rows : List ρ) :
    (sumWith plus key weight rows).Ordered :=
  ordered_gather key (fun r sum => plus (sum.getD 0) (weight r)) rows

theorem ordered_sumBy (rows : List ρ) : (sumBy key weight rows).Ordered :=
  ordered_sumWith key weight (· + ·) rows

variable [DecidableEq K]

/-- A key has the sum of the weights of its rows, if it has rows. -/
theorem get?_sumBy (rows : List ρ) (k : K) :
    (sumBy key weight rows).get? k =
      if k ∈ rows.map key then some (sumAt key weight rows k) else none := by
  have gathered := get?_gather key (fun r sum => sum.getD 0 + weight r) rows k
  refine gathered.trans ?_
  simp only [mem_map_iff_filter_ne_nil]
  cases found : rows.filter fun r => key r = k with
  | nil => rfl
  | cons r rest =>
      rw [if_pos (List.cons_ne_nil r rest), List.foldl_cons, foldl_add_some, sumAt, found]
      simp

/-- The sum of a key, zero where it has no rows. -/
theorem getD_get?_sumBy (rows : List ρ) (k : K) :
    ((sumBy key weight rows).get? k).getD 0 = sumAt key weight rows k := by
  rw [get?_sumBy]
  split
  · rfl
  · rename_i absent
    exact (sumAt_eq_zero key weight absent).symm

theorem mem_keys_sumBy {rows : List ρ} {k : K} :
    k ∈ (sumBy key weight rows).keys ↔ k ∈ rows.map key :=
  mem_keys_gather key fun r sum => sum.getD 0 + weight r

theorem mem_entries_sumBy {rows : List ρ} {k : K} {sum : Nat} :
    (k, sum) ∈ (sumBy key weight rows).entries ↔
      k ∈ rows.map key ∧ sum = sumAt key weight rows k := by
  rw [(ordered_sumBy key weight rows).mem_entries, get?_sumBy]
  split <;> simp_all [eq_comm]

theorem entries_sumBy (rows : List ρ) :
    (sumBy key weight rows).entries =
      (sumBy key weight rows).keys.map fun k => (k, sumAt key weight rows k) :=
  entries_eq_map_keys fun _ member => ((mem_entries_sumBy key weight).mp member).2

/-- The gathered sums add up to the weights of all rows. -/
theorem sum_values_sumBy (rows : List ρ) :
    (sumBy key weight rows).values.sum = (rows.map weight).sum := by
  have distinct := (ordered_sumBy key weight rows).nodup_keys
  have covered : ∀ r ∈ rows, key r ∈ (sumBy key weight rows).keys.toFinset := fun r member =>
    List.mem_toFinset.mpr ((mem_keys_sumBy key weight).mpr (List.mem_map.mpr ⟨r, member, rfl⟩))
  rw [values, entries_sumBy, List.map_map, ← sum_sumAt key weight covered,
    List.sum_toFinset _ distinct]
  rfl

end Sums

/-! ### Additions of bounded range -/

/-- An addition that gives the exact sum wherever that stays within a limit, as the exact one does
for every limit. -/
def ExactUpTo (limit : Nat) (plus : Nat → Nat → Nat) : Prop :=
  ∀ a b, a + b ≤ limit → plus a b = a + b

theorem ExactUpTo.mono {limit limit' : Nat} {plus : Nat → Nat → Nat}
    (exact : ExactUpTo limit plus) (within : limit' ≤ limit) : ExactUpTo limit' plus :=
  fun a b fits => exact a b (fits.trans within)

section Exact

variable (weight : ρ → Nat) {plus : Nat → Nat → Nat} {limit : Nat} (exact : ExactUpTo limit plus)

include exact

/-- What was added before a row and the weights from there on stay within the limit, so every single
addition is exact. -/
theorem foldl_plus_eq_foldl_add (rows : List ρ) (v : Option Nat)
    (fits : v.getD 0 + (rows.map weight).sum ≤ limit) :
    rows.foldl (fun v r => some (plus (v.getD 0) (weight r))) v =
      rows.foldl (fun v r => some (v.getD 0 + weight r)) v := by
  induction rows generalizing v with
  | nil => rfl
  | cons r rows ih =>
      simp only [List.map_cons, List.sum_cons] at fits
      have here : plus (v.getD 0) (weight r) = v.getD 0 + weight r := exact _ _ (by omega)
      rw [List.foldl_cons, List.foldl_cons, here]
      exact ih _ (by simp only [Option.getD_some]; omega)

/-- With an addition that is exact up to the sum of all weights, the sums gathered are exact. -/
theorem sumWith_eq_sumBy [DecidableEq K] (key : ρ → K) {rows : List ρ}
    (fits : (rows.map weight).sum ≤ limit) :
    sumWith plus key weight rows = sumBy key weight rows := by
  refine (ordered_sumWith key weight plus rows).ext (ordered_sumBy key weight rows) fun k => ?_
  have part : ((rows.filter fun r => key r = k).map weight).sum ≤ (rows.map weight).sum :=
    (List.filter_sublist.map weight).sum_le_sum fun _ _ => Nat.zero_le _
  have sums := foldl_plus_eq_foldl_add weight exact (rows.filter fun r => key r = k) none
    (by simp only [Option.getD_none]; omega)
  exact (get?_gather key (fun r sum => plus (sum.getD 0) (weight r)) rows k).trans
    (sums.trans (get?_gather key (fun r sum => sum.getD 0 + weight r) rows k).symm)

end Exact

/-! ### Labels, distinct labels, greatest values -/

theorem ordered_labels (label : ρ → K) (rows : List ρ) : (labels label rows).Ordered :=
  ordered_gather label (fun _ _ => ()) rows

section Distinct

variable {L : Type} [Ord L] (key : ρ → K) (label : ρ → L) (rows : List ρ)

/-- The labels seen before a row, if any, and its own. -/
def withLabel (r : ρ) (seen : Option (Tally L Unit)) : Tally L Unit :=
  (seen.getD empty).alter (label r) fun _ => ()

/-- Once there is a row, the labels seen are those of a table of their own. -/
theorem foldl_withLabel_some (seen : Tally L Unit) :
    rows.foldl (fun v r => some (withLabel label r v)) (some seen) =
      some (rows.foldl (fun t r => t.alter (label r) fun _ => ()) seen) := by
  induction rows generalizing seen with
  | nil => rfl
  | cons r rows ih => exact ih _

omit [LawfulEqOrd K] [TransOrd K] in
theorem distinctBy_eq_gather :
    distinctBy key label rows = (gather key (withLabel label) rows).mapValues size :=
  rfl

theorem ordered_distinctBy : (distinctBy key label rows).Ordered :=
  (ordered_gather key (withLabel label) rows).mapValues size

end Distinct

variable [DecidableEq K]

theorem isSome_get?_labels (label : ρ → K) (rows : List ρ) (k : K) :
    ((labels label rows).get? k).isSome ↔ k ∈ rows.map label :=
  (ordered_labels label rows).mem_keys.symm.trans (mem_keys_gather label fun _ _ => ())

/-- The labels of rows are kept once each. -/
theorem size_labels (label : ρ → K) (rows : List ρ) :
    (labels label rows).size = (rows.map label).toFinset.card := by
  have ordered := ordered_labels label rows
  have members : (labels label rows).keys.toFinset = (rows.map label).toFinset := by
    ext k
    rw [List.mem_toFinset, List.mem_toFinset, ordered.mem_keys, isSome_get?_labels]
  rw [← members, List.toFinset_card_of_nodup ordered.nodup_keys, keys, List.length_map, size]

/-- A key has the number of distinct labels of its rows, if it has rows. -/
theorem get?_distinctBy {L : Type} [Ord L] [LawfulEqOrd L] [TransOrd L] [DecidableEq L]
    (key : ρ → K) (label : ρ → L) (rows : List ρ) (k : K) :
    (distinctBy key label rows).get? k =
      if k ∈ rows.map key then
        some (((rows.filter fun r => key r = k).map label).toFinset.card)
      else none := by
  rw [distinctBy_eq_gather, get?_mapValues, get?_gather]
  simp only [mem_map_iff_filter_ne_nil]
  cases rows.filter fun r => key r = k with
  | nil => rfl
  | cons r rest =>
      rw [if_pos (List.cons_ne_nil r rest), List.foldl_cons,
        foldl_withLabel_some, ← size_labels label (r :: rest)]
      rfl

theorem mem_keys_distinctBy {L : Type} [Ord L] (key : ρ → K) (label : ρ → L) {rows : List ρ}
    {k : K} : k ∈ (distinctBy key label rows).keys ↔ k ∈ rows.map key := by
  rw [distinctBy_eq_gather, keys_mapValues, mem_keys_gather]

/-- The rows of some keys have the numbers of labels of those keys. -/
theorem entries_distinctBy_filter {L : Type} [Ord L] (key : ρ → K) (label : ρ → L) (p : K → Bool)
    (rows : List ρ) :
    (distinctBy key label (rows.filter fun r => p (key r))).entries =
      (distinctBy key label rows).entries.filter fun e => p e.1 := by
  simp only [distinctBy_eq_gather, mapValues, entries_gather_filter, List.filter_map]
  rfl

/-- The greater of a value and the one before it, if there is one. -/
def greater [Max V] (v : V) : Option V → V
  | some greatest => max greatest v
  | none => v

theorem foldl_greater_some [Max V] (values : List V) (greatest : V) :
    values.foldl (fun v w => some (greater w v)) (some greatest) =
      some (values.foldl max greatest) := by
  induction values generalizing greatest with
  | nil => rfl
  | cons w values ih => exact ih _

/-- A key has the greatest of its values, if it has any. -/
theorem get?_largest [Max V] (pairs : List (K × V)) (k : K) :
    (largest pairs).get? k = ((pairs.filter fun p => p.1 = k).map Prod.snd).max? := by
  have gathered : (largest pairs).get? k = _ :=
    get?_gather Prod.fst (fun p : K × V => greater p.2) pairs k
  rw [gathered]
  cases pairs.filter fun p => p.1 = k with
  | nil => rfl
  | cons p rest =>
      rw [List.foldl_cons, List.map_cons, List.max?_cons', ← foldl_greater_some, List.foldl_map]
      rfl

end GivenNames.Tally
