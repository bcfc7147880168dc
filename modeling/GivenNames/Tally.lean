/-!
Tallies: one value per key, in key order.

Rows are gathered under keys in four ways: their weights are added up, their distinct labels are
counted, the largest value is kept, or only the keys are. A side table is joined to a list by key.
The order of a tally depends on the keys alone, never on the order of the rows.
-/

namespace GivenNames

/-- A table with at most one value per key, its entries in key order. -/
structure Tally (K V : Type) where
  entries : List (K × V)
  deriving DecidableEq, Repr

namespace Tally

variable {K V ρ : Type}

/-- The table without entries. -/
def empty : Tally K V :=
  ⟨[]⟩

/-- The keys, in order. -/
def keys (t : Tally K V) : List K :=
  t.entries.map Prod.fst

/-- The values, in key order. -/
def values (t : Tally K V) : List V :=
  t.entries.map Prod.snd

/-- The number of keys. -/
def size (t : Tally K V) : Nat :=
  t.entries.length

/-- Every value replaced by what `f` makes of it. -/
def mapValues {W : Type} (f : V → W) (t : Tally K V) : Tally K W :=
  ⟨t.entries.map fun (k, v) => (k, f v)⟩

variable [Ord K]

/-- The value that ordered entries hold at a key. -/
def valueAt? (k : K) : List (K × V) → Option V
  | [] => none
  | (k', v) :: rest => if compare k k' == .eq then some v else valueAt? k rest

/-- Ordered entries with `f` of the present value at a key, the key put into its place if it is
new. -/
def alterAt (k : K) (f : Option V → V) : List (K × V) → List (K × V)
  | [] => [(k, f none)]
  | (k', v) :: rest =>
    match compare k k' with
    | .lt => (k, f none) :: (k', v) :: rest
    | .eq => (k', f (some v)) :: rest
    | .gt => (k', v) :: alterAt k f rest

/-- The value at a key. -/
def get? (t : Tally K V) (k : K) : Option V :=
  valueAt? k t.entries

/-- The table with `f` of the present value at a key. -/
def alter (t : Tally K V) (k : K) (f : Option V → V) : Tally K V :=
  ⟨alterAt k f t.entries⟩

/-! ### Gathering rows -/

/-- The weights of the rows of each key, added up with `plus` from zero. -/
def sumWith (plus : Nat → Nat → Nat) (key : ρ → K) (weight : ρ → Nat) (rows : List ρ) :
    Tally K Nat :=
  rows.foldl (fun t r => t.alter (key r) fun sum => plus (sum.getD 0) (weight r)) empty

/-- The weights of the rows of each key, added up. -/
def sumBy (key : ρ → K) (weight : ρ → Nat) (rows : List ρ) : Tally K Nat :=
  sumWith (· + ·) key weight rows

/-- The distinct labels of rows, as the keys of a table. -/
def labels (label : ρ → K) (rows : List ρ) : Tally K Unit :=
  rows.foldl (fun t r => t.alter (label r) fun _ => ()) empty

/-- The number of distinct labels among the rows of each key. -/
def distinctBy {L : Type} [Ord L] (key : ρ → K) (label : ρ → L) (rows : List ρ) : Tally K Nat :=
  (rows.foldl (fun t r => t.alter (key r) fun seen => (seen.getD empty).alter (label r) fun _ => ())
    (empty : Tally K (Tally L Unit))).mapValues size

/-- The largest value of each key. -/
def largest [Max V] (pairs : List (K × V)) : Tally K V :=
  pairs.foldl (fun t (k, v) =>
    t.alter k fun
      | some greatest => max greatest v
      | none => v) empty

/-! ### Joining -/

/-- Every item of the list, in order, with the value that the table holds at its key. -/
def leftJoin {L : Type} (items : List L) (table : Tally K V) (key : L → K) : List (L × Option V) :=
  items.map fun item => (item, table.get? (key item))

end Tally

end GivenNames
